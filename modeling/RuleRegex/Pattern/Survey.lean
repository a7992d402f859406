import RuleRegex.Pattern.Width

/-!
# Faults that show when a pattern has been read

## Main definitions

* `Pattern.referenceFault?` — the first reference to a group that does not exist, or item that must not
  stand where it does.
* `Pattern.conditionFault?` — the first conditional group with too many branches.
-/

namespace RuleRegex

namespace Pattern

def hasName (p : Pattern) (name : List Nat) : Bool := p.names.any (·.1 = name)

def hasGroup (p : Pattern) : Reference → Bool
  | .number n => n ≤ p.groupCount
  | .name name => p.hasName name

/-- The number that decimal digits after the first character of a name are, or the index of the digit
that makes it too large for a group. -/
def numberInName (name : List Nat) : Except Nat Nat :=
  (name.zipIdx.drop 1).foldlM (fun n (d, i) =>
    let n := 10 * n + (d - 48)
    if 65535 < n then .error i else .ok n) 0

/-- The fault of a reference, if there is no such group. -/
def missing? (p : Pattern) (r : Reference) (position : Nat) : Option (Flaw × Nat) :=
  if p.hasGroup r then none else some (.noSuchGroup, position)

def nodeFault? (p : Pattern) (length : Nat) (inLook : Bool) : Node → Option (Flaw × Nat)
  | .anchor .keepOut => if inLook then some (.keepOutInLookaround, length) else none
  | .backreference r _ position _ | .recursion r position _ => p.missing? r position
  | .conditional (.group r) position _ _ _ | .conditional (.recursion r) position _ _ _ =>
    p.missing? r position
  | .conditional (.nameOrRecursion name) position _ _ _ =>
    if p.hasName name then none
    else match numberInName name with
      | .error i => some (.groupNumberTooBig, position + i)
      | .ok n => p.missing? (.number n) position
  | _ => none

def referenceFault? (p : Pattern) (length : Nat) : Option (Flaw × Nat) :=
  (p.visit { enter := fun inLook n => (p.nodeFault? length inLook n).toList }).head?

def branchesFault? : Node → Option (Flaw × Nat)
  | .conditional .define position _ branches _ =>
    if 1 < branches.length then some (.defineBranches, position) else none
  | .conditional _ position _ branches _ =>
    if 2 < branches.length then some (.tooManyBranches, position) else none
  | _ => none

/-- The first conditional group to end that has too many branches. -/
def conditionFault? (p : Pattern) : Option (Flaw × Nat) :=
  (p.visit { leave := fun _ n => (branchesFault? n).toList }).head?

end Pattern

end RuleRegex
