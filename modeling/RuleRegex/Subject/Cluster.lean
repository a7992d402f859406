import RuleRegex.Subject.Basic
import RuleRegex.Unicode.Cluster

/-!
# Grapheme clusters of a subject

## Main definitions

* `Subject.clusterEnd?` — where the grapheme cluster at a position ends.
-/

namespace RuleRegex

namespace Subject

open Unicode (ClusterClass clusterClass joins)

/-- How many regional indicators stand directly before a position, at most so many. -/
def regionalsBefore (s : Subject) : Nat → Nat → Nat
  | 0, _ => 0
  | most + 1, i =>
    match s.codeBefore? i with
    | some c => if clusterClass c = .regional then s.regionalsBefore most (s.previous i) + 1 else 0
    | none => 0

/-- Where the cluster that goes on at a position ends. `left` is the class of what stands before, where an
extending character after a pictograph does not count, and `emoji` says whether that is a joiner after a
pictograph. The fuel is the number of bytes that are left. -/
def clusterEndFrom (s : Subject) : Nat → ClusterClass → Bool → Nat → Nat
  | 0, _, _, i => i
  | fuel + 1, left, emoji, i =>
    match s.char? i with
    | none => i
    | some (c, next) =>
      let right := clusterClass c
      if !joins left right then i
      else if left = .joiner && right = .pictographic && !emoji then i
      else if left = .regional && right = .regional && s.regionalsBefore i (s.previous i) % 2 = 1 then i
      else
        let left' := if left = .pictographic && right = .extend then left else right
        s.clusterEndFrom fuel left' (left = .pictographic && right = .joiner) next

/-- Where the grapheme cluster that begins at a position ends. -/
def clusterEnd? (s : Subject) (i : Nat) : Option Nat :=
  (s.char? i).map fun (c, next) => s.clusterEndFrom s.size (clusterClass c) false next

end Subject

end RuleRegex
