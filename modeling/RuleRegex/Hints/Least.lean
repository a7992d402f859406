import RuleRegex.Hints.Leading

/-!
# Least lengths

## Main definitions

* `Least.ofGroup` — a number of characters that no match of a group is shorter than.
* `Program.least?` — a number of characters that no match of a program is shorter than.
-/

namespace RuleRegex

namespace Least

/-- What has been found out so far: how many groups have been measured, and the least lengths of groups
that are referred to. -/
structure State where
  groups : Nat := 0
  known : List (Nat × Nat) := []

abbrev Measure := StateT State Option

def most : Nat := 65535

def mostGroups : Nat := 1001

def mostReferred : Nat := 128

structure Trace where
  /-- The least length of the branches before. -/
  shortest : Option Nat := none
  /-- The least length of this branch so far. -/
  length : Nat := 0
  /-- Whether this branch calls a group or refers to one from inside it. Such a branch is not the
  shortest. -/
  isRecursive : Bool := false
  /-- The capture group measured last. -/
  lastCapture : Option (Nat × Nat) := none
  /-- The called group measured last. -/
  lastCall : Option (Nat × Nat) := none
  deriving Inhabited

namespace Trace

def plus (t : Trace) (n : Nat) : Trace := { t with length := t.length + n }

def ended (t : Trace) : Trace :=
  let shortest := match t.shortest with
    | none => t.length
    | some n => if t.isRecursive then n else min n t.length
  { t with shortest := some shortest, length := 0, isRecursive := false }

end Trace

/-- The least length of a group that is referred to at a place, and whether the place is inside it or it is
being measured already. -/
def ofReferred (p : Program) (measure : List Nat → Nat → Measure Nat) (within : List Nat)
    (place bracket : Nat) : Measure (Option Nat) :=
  if (bracket < place && place < p.groupEnd bracket) || within.contains bracket then pure none
  else some <$> measure (bracket :: within) bracket

def opensAgain (p : Program) (place n : Nat) : Bool :=
  (p.code.toList.drop place).any fun inst => inst.openedGroup? == some n

/-- The least length of what a group has captured, and whether that refers to itself. -/
def ofCaptured (p : Program) (sharedNumbers : Bool) (measure : List Nat → Nat → Measure Nat)
    (within : List Nat) (place n : Nat) : Measure (Nat × Bool) := do
  match (← get).known.lookup n with
  | some length => return (length, false)
  | none =>
    let bracket := p.starts.getD n 0
    let length ← if sharedNumbers && opensAgain p (p.groupEnd bracket) n then pure (some 0)
      else ofReferred p measure within place bracket
    modify fun s => { s with known := (n, length.getD 0) :: s.known.filter (·.1 < n) }
    return (length.getD 0, length.isNone)

/-- The least length of what the shortest of several groups has captured, and whether one of those that
were looked at refers to itself. -/
def ofAnyCaptured (captured : Nat → Measure (Nat × Bool)) : List Nat → Measure (Nat × Bool)
  | [] => pure (0, false)
  | [n] => captured n
  | n :: ns => do
    let (length, recursive) ← captured n
    if length = 0 then return (0, recursive)
    else
      let (other, recursive') ← ofAnyCaptured captured ns
      return (min length other, recursive || recursive')

/-- The call that a plain group at a place wraps. -/
def wrappedCall? (p : Program) (i : Nat) : Option Nat :=
  match p.at? i, p.at? (i + 1), p.at? (i + 2) with
  | some (.opening .plain _), some (.call n), some (.closing _ _) => some n
  | _, _, _ => none

def afterCall (p : Program) (measure : List Nat → Nat → Measure Nat) (within : List Nat) (t : Trace)
    (place n : Nat) : Measure Trace := do
  match t.lastCall with
  | some (m, length) =>
    if m = n then return t.plus length
  | none => pure ()
  match ← ofReferred p measure within place (p.starts.getD n 0) with
  | none => return { t with isRecursive := true }
  | some length => return { t.plus length with lastCall := some (n, length) }

/-- The least length of the group whose branches go on at a place. `measure` is the least length of another
group. The fuel is the number of instructions. -/
def ofItems (p : Program) (sharedNumbers : Bool) (measure : List Nat → Nat → Measure Nat)
    (within : List Nat) : Nat → Trace → Nat → Measure Nat
  | 0, _, _ => failure
  | fuel + 1, t, i =>
    let goOn (t : Trace) (j : Nat) : Measure Nat :=
      ofItems p sharedNumbers measure within fuel { t with length := min t.length most } j
    match p.at? i with
    | some (.single .byte) => failure
    | some (.single _) => goOn (t.plus 1) (i + 1)
    | some (.several m c) =>
      match m with
      | .byte => if c.least = 1 && c.most.isSome then failure else goOn (t.plus c.least) (i + 1)
      | _ => goOn (t.plus c.least) (i + 1)
    | some (.backreference groups _ c) => do
      let captured := ofCaptured p sharedNumbers measure within i
      let (length, recursive) ← if 1 < groups.length && sharedNumbers then pure (0, false)
        else ofAnyCaptured captured groups
      goOn { t.plus (c.least * length) with isRecursive := t.isRecursive || recursive } (i + 1)
    | some (.call n) => do goOn (← afterCall p measure within t i n) (i + 1)
    | some (.opening b _) =>
      match wrappedCall? p i with
      | some n => do goOn (← afterCall p measure within t (i + 1) n) (i + 3)
      | none =>
        let after := p.afterGroup i
        match b with
        | .look _ _ | .lookAgain _ => goOn t after
        | .conditional | .guardedConditional =>
          if p.isBranch (p.nextBracket i) then do goOn (t.plus (← measure within i)) after
          else goOn t after
        | .capture n | .possessiveCapture n =>
          match sharedNumbers, t.lastCapture with
          | false, some (m, length) =>
            if m = n then goOn (t.plus length) after
            else do
              let length ← measure within i
              goOn { t.plus length with lastCapture := some (n, length) } after
          | _, _ => do
            let length ← measure within i
            goOn { t.plus length with lastCapture := some (n, length) } after
        | .plain | .guarded | .atomic | .scriptRun | .possessive => do
          goOn (t.plus (← measure within i)) after
    | some (.passable _) | some .passablePossessive | some .passed => goOn t (p.afterGroup (i + 1))
    | some (.branch _) =>
      let t := t.ended
      if t.shortest = some 0 then pure 0 else goOn t (i + 1)
    | some (.closing _ _) => pure (t.ended.shortest.getD 0)
    | some .accept | some .acceptLook | none => failure
    | some _ => goOn t (i + 1)

/-- The least length of the group whose bracket is at a place. `within` are the groups that are being
measured because they are referred to. The fuel is how many groups there can be one inside the other. -/
def ofGroup (p : Program) (sharedNumbers : Bool) : Nat → List Nat → Nat → Measure Nat
  | 0, _, _ => failure
  | fuel + 1, within, bracket =>
    match p.at? bracket with
    | some (.opening .guarded _) | some (.opening .guardedConditional _) => pure 0
    | _ => do
      let s ← get
      if mostGroups ≤ s.groups then failure
      set { s with groups := s.groups + 1 }
      ofItems p sharedNumbers (ofGroup p sharedNumbers fuel) within (p.code.size + 1) {} (bracket + 1)

end Least

/-- A number of characters that no match of a program is shorter than, if one was found. -/
def Program.least? (p : Program) (sharedNumbers : Bool) : Option Nat :=
  ((Least.ofGroup p sharedNumbers (Least.mostGroups + 1) [] 0).run {}).map (min Least.most ·.1)

end RuleRegex
