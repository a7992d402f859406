import RuleRegex.Pattern.Survey
import RuleRegex.Program.Code
import RuleRegex.Program.Consumes

/-!
# Programs of patterns

## Main definitions

* `Fragment.bracketed` — the code of a group.
* `Fragment.repeated` — the code of a repeated group, which is copied as often as it has to be there.
* `Program.ofPattern` — the program of a pattern.
-/

namespace RuleRegex

abbrev Fragment := Array Inst

namespace Fragment

/-- The code of branches after the first one, each with the bracket before it. -/
def furtherBranches (branches : List Fragment) : Fragment :=
  branches.foldl (fun code b => code.push (.branch (b.size + 1)) ++ b) #[]

def bracketed (b : Bracket) (branches : List Fragment) (c : Closing) : Fragment :=
  let first := branches.headD #[]
  let further := furtherBranches (branches.drop 1)
  #[Inst.opening b (first.size + 1)] ++ first ++ further ++
    #[Inst.closing c (first.size + further.size + 1)]

/-- A group that can be copied and closed in different ways. -/
structure Group where
  bracket : Bracket
  branches : List Fragment
  /-- Whether the group may be passed without taking a character. -/
  mayBeEmpty : Bool

namespace Group

def once (g : Group) : Fragment := bracketed g.bracket g.branches .once

def isLook (g : Group) : Bool :=
  match g.bracket with
  | .look _ _ | .lookAgain _ => true
  | _ => false

/-- Whether a group is never entered: its condition does not hold, and there is no other branch. -/
def isIdle (g : Group) : Bool :=
  match g.bracket, g.branches with
  | .conditional, [b] =>
    match b.toList with
    | .test (.constant false) :: _ => true
    | _ => false
  | _, _ => false

def guardedBracket (g : Group) : Bracket :=
  match g.bracket with
  | .plain => if g.mayBeEmpty then .guarded else .plain
  | .conditional => if g.mayBeEmpty || g.branches.length = 1 then .guardedConditional else .conditional
  | b => b

/-- The code of a group that is repeated without end and without going back. -/
def endlessPossessive (g : Group) : Fragment :=
  match g.guardedBracket with
  | .capture n => bracketed (.possessiveCapture n) g.branches (.repeated .possessive)
  | .conditional => wrapped .conditional
  | .guardedConditional => wrapped .guardedConditional
  | _ => bracketed .possessive g.branches (.repeated .possessive)
where
  /-- A conditional group inside the group that is repeated. -/
  wrapped (b : Bracket) : Fragment :=
    bracketed .possessive [bracketed b g.branches .once] (.repeated .possessive)

/-- Copies of a group that need not be there, each inside the one before. -/
def optionalCopies (g : Group) (lazy : Bool) : Nat → Fragment
  | 0 => #[]
  | 1 => #[.passable lazy] ++ g.once
  | count + 1 => #[.passable lazy] ++ bracketed .plain [g.once ++ g.optionalCopies lazy count] .once

def copies (g : Group) (count : Nat) : Fragment :=
  (List.replicate count g.once).foldl (· ++ ·) #[]

/-- Code that is not entered again once it has been left. -/
def sealed (code : Fragment) : Fragment := bracketed .atomic [code] .once

/-- A group that is repeated without end, and whether what is left to do is to seal it. -/
def endless (g : Group) (c : Count) : Fragment :=
  let possessive := c.greed = .possessive
  let lazy := c.greed = .lazy
  let greed := if possessive then Greed.greedy else c.greed
  let g := if possessive && g.bracket = .atomic then { g with bracket := .plain } else g
  let before := g.copies (c.least - 1)
  let sealing (more : Bool) (code : Fragment) : Fragment := if more then sealed code else code
  match g.bracket with
  | .atomic | .scriptRun =>
    let zero : Fragment := if c.least = 0 then #[.passable lazy] else #[]
    sealing possessive (before ++ zero ++ bracketed g.bracket g.branches (.repeated greed))
  | _ =>
    if possessive then
      let zero : Fragment := if c.least = 0 then #[.passablePossessive] else #[]
      sealing (2 ≤ c.least) (before ++ zero ++ g.endlessPossessive)
    else
      let zero : Fragment := if c.least = 0 then #[.passable lazy] else #[]
      before ++ zero ++ bracketed g.guardedBracket g.branches (.repeated greed)

def repeated (g : Group) (c : Count) : Fragment :=
  if (c.isOne && c.greed ≠ .possessive) || g.isIdle then g.once
  else
    -- A lookaround that holds more often than it has to holds once more.
    let most := if g.isLook then some (c.most.getD (c.least + 1)) else c.most
    match most with
    | none => g.endless c
    | some most =>
      if most = 0 then #[.passed] ++ g.once
      else
        let code := g.copies c.least ++ g.optionalCopies (c.greed = .lazy) (most - c.least)
        if c.greed = .possessive then sealed code else code

end Group

def repeatedCall (n : Nat) (c : Count) : Fragment :=
  let wrapped : Group := ⟨.plain, [#[.call n]], true⟩
  let calls (count : Nat) : Fragment := Array.replicate count (.call n)
  let possessive := c.greed = .possessive
  if c.isOne && !possessive then #[.call n]
  else if c.most = some c.least && 0 < c.least then
    if possessive then Group.sealed (calls c.least) else calls c.least
  else if c.least = 0 ∨ (c.least = 1 ∧ c.most = none) then wrapped.repeated c
  else
    let rest : Count := { c with least := 0, most := c.most.map (· - c.least) }
    if possessive && c.most.isSome then
      Group.sealed (calls c.least ++ wrapped.repeated { rest with greed := .greedy })
    else calls c.least ++ wrapped.repeated rest

def repeatedSingle (s : Single) (c : Count) : Fragment :=
  if c.isOne then #[.single (.ofSingle s)]
  else if c.most = some 0 then #[]
  else #[.several (.ofSingle s) c]

def repeatedReference (groups : List Nat) (caseless : Bool) (c : Count) : Fragment :=
  if c.isOne then #[.backreference groups caseless {}]
  else if c.most = some 0 then #[]
  else if c.greed = .possessive then
    Group.sealed #[.backreference groups caseless { c with greed := .greedy }]
  else #[.backreference groups caseless c]

end Fragment

/-- What surrounds a node that is compiled. -/
structure Scope where
  pattern : Pattern
  widths : Width.Context
  /-- How many lookarounds stand around it. -/
  looks : Nat := 0
  /-- The capture groups that are open, innermost first, each with the lookarounds around it. -/
  captures : List (Nat × Nat) := []

namespace Scope

def groups (x : Scope) : Reference → List Nat
  | .number n => [n]
  | .name name => x.pattern.groupsNamed name

def called (x : Scope) (r : Reference) : Nat := (x.groups r).headD 0

def test (x : Scope) : Condition → Test
  | .group r => .set (x.groups r)
  | .anyRecursion => .called none
  | .recursion r => .called (some (x.groups r))
  | .nameOrRecursion name =>
    if x.pattern.hasName name then .set (x.pattern.groupsNamed name)
    else match Pattern.numberInName name with
      | .ok 0 | .error _ => .called none
      | .ok n => .called (some [n])
  | .define | .look _ _ _ => .constant false
  | .constant b => .constant b

def inside (x : Scope) : GroupKind → Scope
  | .capture n => { x with captures := (n, x.looks) :: x.captures }
  | .look _ _ | .lookAgain _ => { x with looks := x.looks + 1 }
  | _ => x

/-- The code that accepts: the capture groups that are open end here. -/
def accept (x : Scope) : Fragment :=
  let ends := (x.captures.takeWhile fun (_, looks) => x.looks ≤ looks).map fun (n, _) => Inst.capture n
  ends.toArray.push (if 0 < x.looks then .acceptLook else .accept)

/-- The code of a branch of a lookbehind: it goes back first. -/
def behind (x : Scope) (b : Branch) (code : Fragment) : Fragment :=
  match Pattern.width x.widths b with
  | 0 => code
  | n => #[.back n] ++ code

end Scope

def GroupKind.bracket : GroupKind → Bracket
  | .plain => .plain
  | .capture n => .capture n
  | .atomic => .atomic
  | .scriptRun => .scriptRun
  | .look d negated => .look d negated
  | .lookAgain d => .lookAgain d

def GroupKind.isBehind : GroupKind → Bool
  | .look .behind _ | .lookAgain .behind => true
  | _ => false

/-- The verb with its name up to a null character, where names end when they are compared. -/
def Verb.trimmed : Verb → Verb
  | .mark name => .mark (name.takeWhile (· ≠ 0))
  | .skipTo name => .skipTo (name.takeWhile (· ≠ 0))
  | v => v

mutual

def Scope.ofNode (x : Scope) : Node → Fragment
  | .single s c => Fragment.repeatedSingle s c
  | .anchor a => #[.anchor a]
  | .backreference r caseless _ c => Fragment.repeatedReference (x.groups r) caseless c
  | .recursion r _ c => Fragment.repeatedCall (x.called r) c
  | .group kind _ branches c =>
    let inner := Scope.ofBranches (x.inside kind) kind.isBehind branches
    if kind = .look .ahead true && branches.length = 1 && (inner.headD #[]).isEmpty && c.isOne then
      #[.verb .fail]
    else
      let g : Fragment.Group := ⟨kind.bracket, inner, !Node.allConsume branches⟩
      g.repeated c
  | .conditional d _ test branches c =>
    let inner := Scope.ofBranches x false branches
    let condition := match d with
      | .look direction negated _ =>
        let kind := GroupKind.look direction negated
        let code := Scope.ofBranches (x.inside kind) kind.isBehind test
        if kind = .look .ahead true && test.length = 1 && (code.headD #[]).isEmpty then
          #[.test (.constant false)]
        else Fragment.bracketed kind.bracket code .once
      | d => #[.test (x.test d)]
    let first := condition ++ inner.headD #[]
    let g : Fragment.Group :=
      ⟨.conditional, first :: inner.drop 1, !Node.allConsume branches⟩
    g.repeated c
  | .verb v => #[.verb v.trimmed]
  | .accept => x.accept
  | .callout => #[]

def Scope.ofBranch (x : Scope) : List Node → Fragment
  | [] => #[]
  | n :: ns => Scope.ofNode x n ++ Scope.ofBranch x ns

/-- The code of each of the branches, which may be those of a lookbehind. -/
def Scope.ofBranches (x : Scope) (behind : Bool) : List (List Node) → List Fragment
  | [] => []
  | b :: bs =>
    let code := Scope.ofBranch x b
    (if behind then x.behind b code else code) :: Scope.ofBranches x behind bs

end

namespace Program

/-- Where each group of code begins first. -/
def groupStarts (groupCount : Nat) (code : Fragment) : Array Nat :=
  (code.toList.zipIdx.reverse).foldl (fun starts (inst, i) =>
    match inst.openedGroup? with
    | some n => starts.setIfInBounds n i
    | none => starts) (Array.replicate (groupCount + 1) 0)

def isOnward : Inst → Bool
  | .verb (.onward _) => true
  | _ => false

def ofPattern (p : Pattern) : Program :=
  let x : Scope := { pattern := p, widths := p.widthContext }
  let code := (Fragment.bracketed .plain (x.ofBranches false p.branches) .once).push .finish
  { code, starts := groupStarts p.groupCount code, hasOnward := code.any isOnward,
    settings := p.settings }

end Program

end RuleRegex
