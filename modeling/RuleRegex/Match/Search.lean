import RuleRegex.Engine.Interface
import RuleRegex.Match.Run
import RuleRegex.Hints.Basic

/-!
# Searching for a match

Matching is tried from one start after the other. What is known beforehand of the subjects that match
rules starts out.

## Main definitions

* `Search.candidate` — the next start that is tried.
* `Search.run` — the first match.
-/

namespace RuleRegex

structure Search where
  task : Task
  hints : Hints
  groupCount : Nat
  /-- Whether the pattern names a line break character. -/
  namesLineBreak : Bool

inductive Searched where
  | found (p : Point Stack)
  | nothing
  | breach (b : Breach)

namespace Search

/-- The first position from `i` on whose byte is such as asked for, or the end. The fuel is the number of
bytes. -/
def firstByte (s : Subject) (holds : Nat → Bool) : Nat → Nat → Nat
  | 0, i => i
  | fuel + 1, i => if i < s.size ∧ !holds (s.byteAt i) then firstByte s holds fuel (i + 1) else i

/-- The position after the character at a position. The fuel is the number of bytes. -/
def afterCharacter (s : Subject) : Nat → Nat → Nat
  | 0, i => i
  | fuel + 1, i =>
    if i < s.size ∧ 0x80 ≤ s.byteAt i ∧ s.byteAt i < 0xC0 then afterCharacter s fuel (i + 1) else i

/-- The first position from `i` on that stands after a line break, or the end. The fuel is the number of
bytes. -/
def afterLineBreak (s : Subject) (l : LineBreak) : Nat → Nat → Nat
  | 0, i => i
  | fuel + 1, i =>
    if i < s.size ∧ !s.lineBreakBefore l i then
      afterLineBreak s l fuel (afterCharacter s s.size (i + 1))
    else i

def insideBreak (s : Subject) (i : Nat) : Bool := 0 < i && s.byteAt (i - 1) == 13 && s.isByte i 10

def requiredReach (anchored : Bool) : Nat := if anchored then 5000 else 5000000

/-- The next start from `i` on by what a match begins with, if there is one. -/
def startFrom? (x : Search) (i : Nat) : Option Nat :=
  let s := x.task.subject
  let h := x.hints
  let l := x.task.program.settings.lineBreak
  let byByte (holds : Nat → Bool) : Option Nat :=
    let j := firstByte s holds s.size i
    if j < s.size then some j else none
  if h.anchored then
    if h.first.isNone && h.starts.isNone then some i
    else if i < s.size && (h.first.any (·.holds (s.byteAt i)) ||
        h.starts.any fun set => set.getD (s.byteAt i) false) then some i
    else none
  else match h.first with
    | some u => byByte u.holds
    | none =>
      if h.atLine then
        if i = 0 then some i
        else
          let j := afterLineBreak s l s.size i
          some (if (l = .any ∨ l = .anyCrlf) ∧ insideBreak s j then j + 1 else j)
      else match h.starts with
        | some set => byByte fun b => set.getD b false
        | none => some i

/-- Whether a match can be as short as what is left from a start on, and the required byte is there.
`known` is where that byte is known to be. The result is where it is known to be now. -/
def fits? (x : Search) (i : Nat) (known : Option Nat) : Option (Option Nat) :=
  let s := x.task.subject
  let h := x.hints
  if s.size - i < h.least then none
  else match h.required with
    | none => some known
    | some u =>
      let from_ := if h.first.isSome then i + 1 else i
      if known.any (from_ ≤ ·) || requiredReach h.anchored ≤ s.size - i then some known
      else
        let j := firstByte s u.holds s.size from_
        if j < s.size then some (some j) else none

/-- The next start from `i` on that is tried, and where the required byte is known to be. -/
def candidate? (x : Search) (i : Nat) (known : Option Nat) : Option (Nat × Option Nat) :=
  if x.task.program.settings.noStartHints then some (i, known)
  else do
    let j ← x.startFrom? i
    let known ← x.fits? j known
    return (j, known)

def nextStart (x : Search) (start : Nat) (v : Verdict) : Nat :=
  let s := x.task.subject
  let following := afterCharacter s s.size (start + 1)
  match v with
  | .skip position _ => if start < position then position else following
  | _ => following

/-- The start to go on from, which is not inside a line break of two characters. -/
def settled (x : Search) (i : Nat) : Nat :=
  let l := x.task.program.settings.lineBreak
  if insideBreak x.task.subject i ∧ !x.namesLineBreak ∧ (l = .any ∨ l = .anyCrlf ∨ l = .crlf) then
    i + 1
  else i

def isAnchored (x : Search) : Bool := x.hints.anchored

def runFrom (x : Search) : Nat → Nat → Option Nat → Nat → Nat → Searched
  | 0, _, _, _, _ => .nothing
  | fuel + 1, i, known, storage, ignored =>
    match x.candidate? i known with
    | none => .nothing
    | some (start, known) =>
      match { x.task with ignoredSkips := ignored }.run x.groupCount start storage with
      | .found p => .found p
      | .breach b => .breach b
      | .failed v storage skips =>
        match v with
        | .commit _ => .nothing
        | .skipTo _ _ =>
          if x.isAnchored then .nothing else x.runFrom fuel (x.settled start) known storage skips
        | v =>
          let ignored := match v with
            | .skip position _ => if start < position then ignored else 0
            | _ => 0
          let next := x.nextStart start v
          if x.isAnchored ∨ x.task.subject.size < next then .nothing
          else x.runFrom fuel (x.settled next) known storage ignored

def storageAtFirst? (pointSize heapLimit : Nat) : Option Nat :=
  let wanted := max 20480 (10 * pointSize)
  if heapLimit < wanted / 1024 then
    if heapLimit * 1024 < pointSize then none else some (heapLimit * 1024)
  else some wanted

def run (x : Search) : Searched :=
  match storageAtFirst? x.task.pointSize x.task.heapLimit with
  | none => .breach .heapLimit
  | some storage =>
    x.runFrom ((x.task.subject.size + 2) * (x.task.matchLimit + 2)) 0 none storage 0

end Search

end RuleRegex
