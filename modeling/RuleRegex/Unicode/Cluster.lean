import RuleRegex.Unicode.Data.Cluster
import RuleRegex.Unicode.Runs

/-!
# Grapheme clusters

## Main definitions

* `ClusterClass` — the grapheme break class of a code point.
* `joins` — whether no break stands between two neighbours.
-/

namespace RuleRegex.Unicode

inductive ClusterClass where
  | other
  | carriageReturn
  | lineFeed
  | control
  | extend
  | prepend
  | spacingMark
  | leading
  | vowel
  | trailing
  | leadingVowel
  | leadingVowelTrailing
  | regional
  | joiner
  | pictographic
  deriving DecidableEq, Repr

def clusters : Runs := Runs.ofText Data.clusterRuns

def clusterClass (c : Nat) : ClusterClass :=
  match (clusters.value c).toList with
  | ['C', 'R'] => .carriageReturn
  | ['L', 'F'] => .lineFeed
  | ['C'] => .control
  | ['E'] => .extend
  | ['P'] => .prepend
  | ['S'] => .spacingMark
  | ['L'] => .leading
  | ['V'] => .vowel
  | ['T'] => .trailing
  | ['H'] => if (c - 0xAC00) % 28 = 0 then .leadingVowel else .leadingVowelTrailing
  | ['R'] => .regional
  | ['Z'] => .joiner
  | ['X'] => .pictographic
  | _ => .other

/-- Whether no break stands between neighbours of the given classes, where neither emoji sequences nor
pairs of regional indicators decide. -/
def joins : ClusterClass → ClusterClass → Bool
  | .carriageReturn, .lineFeed => true
  | .carriageReturn, _ | .lineFeed, _ | .control, _ => false
  | _, .carriageReturn | _, .lineFeed | _, .control => false
  | _, .extend | _, .spacingMark | _, .joiner => true
  | .prepend, _ => true
  | .leading, .leading | .leading, .vowel | .leading, .leadingVowel
  | .leading, .leadingVowelTrailing => true
  | .leadingVowel, .vowel | .leadingVowel, .trailing | .vowel, .vowel | .vowel, .trailing => true
  | .leadingVowelTrailing, .trailing | .trailing, .trailing => true
  | .regional, .regional => true
  | .joiner, .pictographic => true
  | _, _ => false

end RuleRegex.Unicode
