/-!
# Runs of code points

The properties of code points are kept as texts of words, one word a run, and looked up by bisection.

## Main definitions

* `Runs` — values of consecutive code points.
* `Runs.ofText`, `Runs.value` — reading the words, and the value at a code point.
* `Ranges` — a set of code points as ranges.
* `Ranges.ofText`, `Ranges.contains` — reading the words, and membership.
-/

namespace RuleRegex.Unicode

def hexValue (c : Char) : Nat := if c.toNat < 58 then c.toNat - 48 else c.toNat - 87

def hexNumber (cs : List Char) : Nat := cs.foldl (fun n c => 16 * n + hexValue c) 0

def isGap (c : Char) : Bool := c == ' ' || c == '\n'

def words (text : String) : List (List Char) :=
  (text.toList.splitBy fun a b => isGap a == isGap b).filter (!·.any isGap)

/-- Values of consecutive code points: where runs start, and their values. -/
structure Runs where
  starts : Array Nat
  values : Array String

namespace Runs

/-- Runs written as words: how far a run starts from the one before, and its value, which begins with a
capital. -/
def ofText (text : String) : Runs :=
  (words text).foldl (fun (rs : Runs × Nat) word =>
    let start := rs.2 + hexNumber (word.takeWhile (!·.isUpper))
    (⟨rs.1.starts.push start, rs.1.values.push (String.ofList (word.dropWhile (!·.isUpper)))⟩, start))
    (⟨#[], #[]⟩, 0) |>.1

/-- How many of the starts from `low` on and before `low + count` are not beyond the code point, added
to `low`; the starts grow. -/
def bisect (starts : Array Nat) (c : Nat) (low count : Nat) : Nat :=
  if h : count = 0 then low
  else
    let half := count / 2
    if starts.getD (low + half) 0 ≤ c then bisect starts c (low + half + 1) (count - half - 1)
    else bisect starts c low half
termination_by count
decreasing_by all_goals omega

def value (r : Runs) (c : Nat) : String :=
  r.values.getD (bisect r.starts c 0 r.starts.size - 1) ""

end Runs

/-- A set of code points as ranges in order: where they start, and their last code points. -/
structure Ranges where
  starts : Array Nat
  lasts : Array Nat

namespace Ranges

/-- Ranges written as words: how far a range starts from the end of the one before, and after a hyphen
its length less one if it is longer than one code point. -/
def ofText (text : String) : Ranges :=
  (words text).foldl (fun (rs : Ranges × Nat) word =>
    let start := rs.2 + hexNumber (word.takeWhile (· ≠ '-'))
    let last := start + hexNumber ((word.dropWhile (· ≠ '-')).drop 1)
    (⟨rs.1.starts.push start, rs.1.lasts.push last⟩, last))
    (⟨#[], #[]⟩, 0) |>.1

def contains (r : Ranges) (c : Nat) : Bool :=
  match Runs.bisect r.starts c 0 r.starts.size with
  | 0 => false
  | i + 1 => c ≤ r.lasts.getD i 0

end Ranges

end RuleRegex.Unicode
