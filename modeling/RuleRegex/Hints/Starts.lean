import RuleRegex.Hints.Leading
import RuleRegex.Program.Listed

/-!
# Bytes that matches begin with

## Main definitions

* `Matcher.starts?` — the bytes that an item begins with.
* `Starts.ofGroup` — the bytes that a group begins with.
* `Program.starts?` — the bytes that every match of a program begins with one of.
-/

namespace RuleRegex

def bytesBetween (first last : Nat) : List Nat := (List.range (last + 1 - first)).map (first + ·)

namespace CharSet

def starts? (s : CharSet) (table : Array Bool) : Option (List Nat) :=
  if s.hasProperty || (s.isWide && s.negated && s.isWideOnly) then none
  else
    let narrow := ((List.range 256).filter fun c => table.getD c false).map Utf8.firstByte
    let wide :=
      if s.isWide && !s.negated then
        s.wideRanges.flatMap fun (first, last) =>
          bytesBetween (Utf8.firstByte first) (Utf8.firstByte last)
      else if s.isWide || s.negated != s.hasNegated then bytesBetween 0xC4 0xFF
      else []
    some (narrow ++ wide)

end CharSet

namespace CharKind

/-- The bytes that characters of a kind begin with, or those of no such kind, if they are known. -/
def starts? (k : CharKind) (negated : Bool) : Option (List Nat) :=
  match k with
  | horizontal => if negated then none else some [9, 32, 0xC2, 0xE1, 0xE2, 0xE3]
  | vertical => if negated then none else some [10, 11, 12, 13, 0xC2, 0xE2]
  | k =>
    let narrow := (List.range 128).filter fun c => k.holds c != negated
    some (narrow ++ if negated then bytesBetween 0xC0 0xFF else [])

end CharKind

def Matcher.starts? : Matcher → Option (List Nat)
  | char c => some [Utf8.firstByte c]
  | oneOf cs false => some (cs.map Utf8.firstByte)
  | kind k negated => k.starts? negated
  | newline => some [10, 11, 12, 13, 0xC2, 0xE2]
  | set s table => s.starts? table
  | _ => none

def Matcher.hasManyCases : Matcher → Bool
  | oneOf cs _ => 2 < cs.length
  | _ => false

namespace Starts

structure State where
  bytes : List Nat := []
  groups : Nat := 0

/-- A search for bytes that finds nothing if some item can begin with any byte. -/
abbrev Find := StateT State Option

def add (m : Matcher) : Find Unit := do
  match m.starts? with
  | none => failure
  | some bytes => modify fun s => { s with bytes := bytes ++ s.bytes }

inductive Reached where
  /-- An item that has to be there. -/
  | item
  /-- Another branch. -/
  | branch
  /-- The end of the group. -/
  | finish
  deriving DecidableEq

def mostGroups : Nat := 1000

/-- Adds the bytes that the items from a place on begin with. `group` does so for a group, and says whether
something has to be there. The fuel is the number of instructions. -/
def ofItems (p : Program) (group : Nat → Find Bool) : Nat → Nat → Find Reached
  | 0, _ => failure
  | fuel + 1, i =>
    match p.at? i with
    | some (.single m) => do add m; return .item
    | some (.several m c) => do
      if c.least = 0 && m.hasManyCases then failure
      add m
      if c.least = 0 then ofItems p group fuel (i + 1) else return .item
    | some (.anchor .start) | some (.anchor .wordBoundary) | some (.anchor .notWordBoundary) =>
      ofItems p group fuel (i + 1)
    | some (.opening (.look .ahead true) _) | some (.opening (.look .behind _) _)
    | some (.opening (.lookAgain .behind) _) => ofItems p group fuel (p.afterGroup i)
    | some (.opening .conditional _) | some (.opening .guardedConditional _) => failure
    | some (.opening _ _) => do
      if ← group i then return .item else ofItems p group fuel (p.afterGroup i)
    | some (.passable _) | some .passablePossessive => do
      let _ ← group (i + 1)
      ofItems p group fuel (p.afterGroup (i + 1))
    | some .passed => ofItems p group fuel (p.afterGroup (i + 1))
    | some (.branch _) => return .branch
    | some (.closing _ _) => return .finish
    | _ => failure

/-- Adds the bytes that the branches of a group begin with, from the bracket at a place on. The result is
whether something has to be there in each. The fuel is the number of instructions. -/
def ofBranches (p : Program) (group : Nat → Find Bool) : Nat → Nat → Find Bool
  | 0, _ => failure
  | fuel + 1, bracket => do
    match ← ofItems p group p.code.size (bracket + 1) with
    | .finish => return false
    | r =>
      let next := p.nextBracket bracket
      if p.isBranch next then return (← ofBranches p group fuel next) && r = .item
      else return r = .item

/-- Adds the bytes that a group begins with. The fuel is how many groups there can be one inside the
other. -/
def ofGroup (p : Program) : Nat → Nat → Find Bool
  | 0, _ => failure
  | fuel + 1, bracket => do
    let s ← get
    if mostGroups ≤ s.groups then failure
    set { s with groups := s.groups + 1 }
    ofBranches p (ofGroup p fuel) p.code.size bracket

end Starts

/-- The bytes that every match of a program begins with one of, if they are known. -/
def Program.startBytes? (p : Program) : Option (List Nat) := do
  let (holds, s) ← (Starts.ofGroup p (Starts.mostGroups + 1) 0).run {}
  if holds then some s.bytes else none

end RuleRegex
