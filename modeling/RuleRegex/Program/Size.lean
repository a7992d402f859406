import RuleRegex.Pattern.Visit
import RuleRegex.Pattern.Symbol

/-!
# Sizes of programs

The size of a program is limited. It is counted in units before anything is compiled, because repeated
groups are copied.

## Main definitions

* `Pattern.units` — how many units the program of a pattern takes.
* `largestProgram` — how many it may take.
-/

namespace RuleRegex

def largestProgram : Nat := 65536

namespace Size

def link : Nat := 2

def number : Nat := 2

/-- The units of a part of a class that is not kept in a table. -/
def ofItem : SetItem → Nat
  | .range first last =>
    if first = last then 1 + Symbol.byteLength first
    else 1 + Symbol.byteLength first + Symbol.byteLength last
  | .property _ _ => 3
  | .named _ _ | .kind _ _ => 0

/-- Whether a part of a class has to be kept outside a table. -/
def isWide : SetItem → Bool
  | .range _ last => 255 < last
  | .property _ _ => true
  | .named _ _ | .kind _ _ => false

def ofSingle : Single → Nat
  | .char c _ | .notChar c _ => 1 + Symbol.byteLength c
  | .inLine | .any | .byte | .kind _ _ | .newline | .cluster => 1
  | .property _ _ => 3
  | .set s =>
    if s.items.any isWide then 36 + (s.items.filter isWide).foldr (fun item n => ofItem item + n) 0 + 1 else 33

/-- The units that are added to an item for one character when it is repeated. -/
def ofCount (size : Nat) (s : Single) (c : Count) : Nat :=
  if c.isOne then size
  else match s with
    | .set _ => if c.least ≤ 1 && c.most.all (· ≤ 1) then size + 1 else size + 1 + 2 * number
    | _ =>
      let size := match s with
        | .char _ _ | .notChar _ _ => size
        | _ => size + 1
      match c.most with
      | none => if c.least ≤ 1 then size else 2 * size + number
      | some most =>
        if most = 0 then 0
        else if most = 1 then size
        else if c.least = most || c.least = 0 then size + number
        else 2 * size + 2 * number

def ofName (name : Option (List Nat)) : Nat :=
  match name with
  | some name => 2 + Read.nameLength name
  | none => 0

def ofVerb : Verb → Nat
  | .mark name | .skipTo name => 1 + ofName (some name)
  | .fail | .skip => 1
  | .commit name | .prune name | .onward name => 1 + ofName name

def ofRepeated (size : Nat) (c : Count) : Nat :=
  if c.isOne then size
  else match c.most with
    | none => max 1 c.least * size + 1
    | some most =>
      let more := most - c.least
      max (most * size) size + more + (more - 1) * (2 + 2 * link) + 1

def ofCondition : Condition → Nat
  | .group _ | .recursion _ | .nameOrRecursion _ | .anyRecursion => 1 + number
  | .define | .constant _ => 1
  | .look _ _ _ => 0

def ofBrackets (branches : Nat) : Nat := (branches + 1) * (1 + link)

mutual

def ofNode : Node → Nat
  | .single s c => ofCount (ofSingle s) s c
  | .anchor _ => 1
  | .backreference _ _ _ c => if c.isOne then 1 + number else 2 + 3 * number
  | .recursion _ _ c => ofRepeated (1 + link) c
  | .group kind _ branches c =>
    let head := match kind with
      | .capture _ => number
      | .look .behind _ | .lookAgain .behind => branches.length * (1 + link)
      | _ => 0
    ofRepeated (head + ofBrackets branches.length + ofBranches branches) c
  | .conditional d _ test branches c =>
    let inner := match d with
      | .look _ _ _ => ofBrackets test.length + ofBranches test
      | d => ofCondition d
    ofRepeated (inner + ofBrackets branches.length + ofBranches branches) c
  | .verb v => ofVerb v
  | .accept => 1
  | .callout => 2 + 2 * link

def ofBranch : List Node → Nat
  | [] => 0
  | n :: ns => ofNode n + ofBranch ns

/-- The units of branches, without what stands between them. -/
def ofBranches : List (List Node) → Nat
  | [] => 0
  | b :: bs => ofBranch b + ofBranches bs

end

end Size

/-- How many units the program of a pattern takes. -/
def Pattern.units (p : Pattern) : Nat :=
  Size.ofBrackets p.branches.length + Size.ofBranches p.branches + 1

end RuleRegex
