import RuleRegex.Pattern.Syntax

/-!
# The nodes of a pattern

## Main definitions

* `Node.visit` — what is said of a node before and after the nodes in it, for all nodes in order.
* `Pattern.captures` — the branches of the capture groups, by number.
-/

namespace RuleRegex

/-- What is said of nodes: of each before and after those in it. The flag says whether a node stands in a
lookaround. -/
structure Visitor (α : Type) where
  enter : Bool → Node → List α := fun _ _ => []
  leave : Bool → Node → List α := fun _ _ => []

def GroupKind.isLook : GroupKind → Bool
  | .look _ _ | .lookAgain _ => true
  | _ => false

mutual

def Node.visit {α : Type} (v : Visitor α) (inLook : Bool) : Node → List α
  | .group kind position branches count =>
    v.enter inLook (.group kind position branches count) ++
      Node.visitBranches v (inLook || kind.isLook) branches ++
      v.leave inLook (.group kind position branches count)
  | .conditional c position test branches count =>
    v.enter inLook (.conditional c position test branches count) ++
      Node.visitBranches v true test ++ Node.visitBranches v inLook branches ++
      v.leave inLook (.conditional c position test branches count)
  | n => v.enter inLook n ++ v.leave inLook n

def Node.visitBranch {α : Type} (v : Visitor α) (inLook : Bool) : List Node → List α
  | [] => []
  | n :: ns => n.visit v inLook ++ Node.visitBranch v inLook ns

def Node.visitBranches {α : Type} (v : Visitor α) (inLook : Bool) : List (List Node) → List α
  | [] => []
  | b :: bs => Node.visitBranch v inLook b ++ Node.visitBranches v inLook bs

end

namespace Pattern

def visit {α : Type} (p : Pattern) (v : Visitor α) : List α := Node.visitBranches v false p.branches

/-- The branches of the capture groups with their numbers, in order. -/
def captures (p : Pattern) : List (Nat × List Branch) :=
  p.visit
    { enter := fun _ n => match n with
      | .group (.capture i) _ branches _ => [(i, branches)]
      | _ => [] }

def anyNode (p : Pattern) (holds : Node → Bool) : Bool :=
  (p.visit { enter := fun _ n => [holds n] }).any id

end Pattern

end RuleRegex
