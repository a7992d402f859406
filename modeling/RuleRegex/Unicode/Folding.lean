import RuleRegex.Unicode.Data.Folding
import RuleRegex.Unicode.Runs
import Std.Data.HashMap

/-!
# Case folding

Two code points are the same regardless of case if they fold to one code point.

## Main definitions

* `fold` — the simple case folding of a code point.
* `caseClass` — the code points that are the same as a code point regardless of case.
-/

namespace RuleRegex.Unicode

def colonNumbers (word : List Char) : List Nat :=
  (word.splitBy (fun a b => a ≠ ':' && b ≠ ':')).filterMap fun part =>
    if part = [':'] then none else some (hexNumber part)

/-- Code points and what they fold to, where that is another code point. -/
def foldingPairs : List (Nat × Nat) :=
  (words Data.foldingRuns).flatMap fun word =>
    match colonNumbers word with
    | [c, f, count, stride] => (List.range count).map fun i => (c + i * stride, f + i * stride)
    | _ => []

def foldings : Std.HashMap Nat Nat := Std.HashMap.ofList foldingPairs

/-- The code points that fold to a code point other than themselves, by that code point, in order. -/
def foldingSources : Std.HashMap Nat (List Nat) :=
  foldingPairs.foldl (fun m (c, f) => m.insert f (m.getD f [] ++ [c])) ∅

/-- The simple case folding of a code point. -/
def fold (c : Nat) : Nat := foldings.getD c c

/-- The code points that are the same as the given one regardless of case, itself among them. -/
def caseClass (c : Nat) : List Nat :=
  let f := fold c
  f :: foldingSources.getD f []

def otherCases (c : Nat) : List Nat := (caseClass c).filter (· ≠ c)

end RuleRegex.Unicode
