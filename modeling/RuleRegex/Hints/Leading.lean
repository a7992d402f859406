import RuleRegex.Hints.Basic
import RuleRegex.Text.Utf8

/-!
# What programs begin with

What the branches of a program begin with can show that a match begins at the start of the subject or of
a line only, or which byte has to be ahead.

## Main definitions

* `Program.significant` — the first instruction from a place on that counts.
* `Leading.isAnchored`, `Leading.isAtLine` — whether a group begins at the start of the subject or of a
  line only.
* `Leading.aheadByte?` — the byte that lookaheads at the start of a group ask for.
-/

namespace RuleRegex

namespace Program

def afterGroup (p : Program) (i : Nat) : Nat := p.groupEnd i + 1

/-- Whether the conditional group at a place is never entered: its condition never holds, and there is no
other branch. -/
def isIdleAt (p : Program) (i : Nat) : Bool :=
  match p.at? (i + 1) with
  | some (.test (.constant false)) => !p.isBranch (p.nextBracket i)
  | _ => false

/-- The place after an instruction that does not count when what a match begins with is looked for.
`skipTests` says whether tests of the position do not count. -/
def afterInsignificant? (p : Program) (skipTests : Bool) (i : Nat) : Option Nat :=
  match p.at? i with
  | some (.opening (.look .ahead true) _) | some (.opening (.look .behind _) _)
  | some (.opening (.lookAgain .behind) _) => if skipTests then some (p.afterGroup i) else none
  | some (.opening .conditional _) | some (.opening .guardedConditional _) =>
    if p.isIdleAt i then some (p.afterGroup i) else none
  | some (.anchor .wordBoundary) | some (.anchor .notWordBoundary) =>
    if skipTests then some (i + 1) else none
  | some (.test _) | some (.verb (.mark _)) | some (.verb (.commit (some _)))
  | some (.verb (.prune (some _))) | some (.verb (.skipTo _)) | some (.verb (.onward (some _))) =>
    some (i + 1)
  | some .passed => some (p.nextBracket (i + 1) + 1)
  | _ => none

/-- The place of the first instruction from a place on that counts. The fuel is the number of
instructions. -/
def significantFrom (p : Program) (skipTests : Bool) : Nat → Nat → Nat
  | 0, i => i
  | fuel + 1, i =>
    match p.afterInsignificant? skipTests i with
    | some j => p.significantFrom skipTests fuel j
    | none => i

def significant (p : Program) (skipTests : Bool) (i : Nat) : Nat :=
  p.significantFrom skipTests p.code.size i

end Program

/-- What is asked of the start of a program. -/
structure Leading where
  program : Program
  /-- The groups that are referred to. Only the first of them are told apart. -/
  referred : List Nat
  /-- Whether a repeated dot counts as the start of a subject or a line. -/
  dotCounts : Bool

namespace Leading

/-- The number under which a group is noted. -/
def slot (n : Nat) : Nat := if n < 32 then n else 0

/-- Whether an instruction repeats a dot of the given kind as often as possible. -/
def isDots (any : Bool) : Inst → Bool
  | .several .any c => any && c.least == 0 && c.most.isNone
  | .several .inLine c => !any && c.least == 0 && c.most.isNone
  | _ => false

/-- Where the instructions being looked at stand: whether in a lookaround or a group that is not entered
again, and whether in a group that is referred to. -/
structure Setting where
  closed : Bool := false
  referred : Bool := false

def Setting.inCapture (s : Setting) (x : Leading) (n : Nat) : Setting :=
  { s with referred := s.referred || x.referred.contains (slot n) }

def Setting.inClosed (s : Setting) : Setting := { s with closed := true }

def dotsCount (x : Leading) (s : Setting) : Bool := x.dotCounts && !s.closed && !s.referred

/-- Whether a match of each branch, from the bracket at a place on, begins at the start of the subject.
The fuel is the number of instructions. -/
def isAnchored (x : Leading) : Nat → Setting → Nat → Bool
  | 0, _, _ => false
  | fuel + 1, s, bracket =>
    let p := x.program
    let i := p.significant false (bracket + 1)
    let holds := match p.at? i with
      | some (.opening b _) =>
        match b with
        | .plain | .guarded | .possessive => isAnchored x fuel s i
        | .capture n | .possessiveCapture n => isAnchored x fuel (s.inCapture x n) i
        | .look .ahead false | .lookAgain .ahead | .atomic => isAnchored x fuel s.inClosed i
        | .conditional | .guardedConditional =>
          p.isBranch (p.nextBracket i) && isAnchored x fuel s i
        | _ => false
      | some (.anchor .start) | some (.anchor .absoluteStart) | some (.anchor .searchStart) => true
      | some inst => isDots true inst && x.dotsCount s
      | none => false
    let next := p.nextBracket bracket
    holds && (!p.isBranch next || isAnchored x fuel s next)

/-- Whether a match of each branch, from the bracket at a place on, begins at the start of a line. Of a
conditional group it is the condition and what follows it that count. The fuel is the number of
instructions. -/
def isAtLine (x : Leading) : Nat → Setting → Nat → Bool
  | 0, _, _ => false
  | fuel + 1, s, bracket =>
    let p := x.program
    let i := p.significant false (bracket + 1)
    let (met, i) := match p.at? i, p.at? (i + 1) with
      | some (.opening .conditional _), some (.opening _ _) =>
        (isAtLine x fuel s.inClosed (i + 1), p.significant false (p.afterGroup (i + 1)))
      | some (.opening .conditional _), _ => (false, i)
      | _, _ => (true, i)
    let holds := match p.at? i with
      | some (.opening b _) =>
        match b with
        | .plain | .guarded | .possessive => isAtLine x fuel s i
        | .capture n | .possessiveCapture n => isAtLine x fuel (s.inCapture x n) i
        | .look .ahead false | .lookAgain .ahead | .atomic => isAtLine x fuel s.inClosed i
        | _ => false
      | some (.anchor .start) | some (.anchor .lineStart) => true
      | some inst => isDots false inst && x.dotsCount s
      | none => false
    let next := p.nextBracket bracket
    met && holds && (!p.isBranch next || isAtLine x fuel s next)

/-- The byte that an instruction for one character asks for, and whether without regard to case. -/
def byteOf? : Matcher → Option (Nat × Bool)
  | .char c => some (Utf8.firstByte c, false)
  | .oneOf (c :: cs) false => if c < 0x80 ∧ cs.length ≤ 1 then some (c, true) else none
  | _ => none

def commonByte? (before : Option (Nat × Bool)) (sameCase : Bool) (u : Nat × Bool) :
    Option (Nat × Bool) :=
  match before with
  | none => some u
  | some v => if v.1 = u.1 ∧ (!sameCase ∨ v.2 = u.2) then some v else none

/-- The byte that lookaheads ask for at the start of each branch, from the bracket at a place on, and
whether without regard to case. `before` is what the branches before ask for. The fuel is the number of
instructions. -/
def aheadByte? (p : Program) : Nat → Bool → Option (Nat × Bool) → Nat → Option (Nat × Bool)
  | 0, _, _, _ => none
  | fuel + 1, inLook, before, bracket => do
    let i := p.significant true (bracket + 1)
    let single (m : Matcher) : Option (Nat × Bool) := do
      guard inLook
      commonByte? before false (← byteOf? m)
    let here ← match p.at? i with
      | some (.opening b _) =>
        match b with
        | .plain | .possessive | .capture _ | .possessiveCapture _ | .atomic | .scriptRun =>
          (aheadByte? p fuel inLook none i).bind (commonByte? before true)
        | .look .ahead false | .lookAgain .ahead =>
          (aheadByte? p fuel true none i).bind (commonByte? before true)
        | _ => none
      | some (.single m) => single m
      | some (.several m c) => if c.least = 0 then none else single m
      | _ => none
    let next := p.nextBracket bracket
    if p.isBranch next then aheadByte? p fuel inLook (some here) next else some here

end Leading

end RuleRegex
