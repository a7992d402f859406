import RuleRegex.Program.Matcher

/-!
# What bracketed classes list

What a class says of the first 256 characters is kept in a table. Further characters are listed one by one
or in ranges, unless the class holds of all of them or of none.

## Main definitions

* `CharSet.wideRanges` — the further characters that a class lists.
* `CharSet.isWide` — whether a class is more than its table.
-/

namespace RuleRegex

namespace CharSet

def hasProperty (s : CharSet) : Bool :=
  s.items.any fun
    | .property _ _ => true
    | _ => false

/-- Whether a part of a class holds of all characters that are not in its list. -/
def hasNegated (s : CharSet) : Bool :=
  s.items.any fun
    | .named _ negated | .kind .digit negated | .kind .space negated | .kind .word negated => negated
    | _ => false

def ranges (s : CharSet) : List (Nat × Nat) :=
  s.items.flatMap fun
    | .range first last => [(first, last)]
    | .kind .horizontal false =>
      [(9, 9), (32, 32), (0xA0, 0xA0), (0x1680, 0x1680), (0x180E, 0x180E), (0x2000, 0x200A),
        (0x202F, 0x202F), (0x205F, 0x205F), (0x3000, 0x3000)]
    | .kind .vertical false => [(10, 13), (0x85, 0x85), (0x2028, 0x2029)]
    | .kind .horizontal true | .kind .vertical true => [(0, 0x10FFFF)]
    | _ => []

/-- The characters beyond those in its table that are another case of one that a class lists. -/
def wideOthers (s : CharSet) : List Nat :=
  if s.caseless then
    (Unicode.foldingPairs.flatMap fun (c, d) => [c, d]).filter fun c =>
      256 ≤ c && (Unicode.otherCases c).any fun d => s.ranges.any fun r => r.1 ≤ d && d ≤ r.2
  else []

def wideRanges (s : CharSet) : List (Nat × Nat) :=
  (s.ranges.filterMap fun (first, last) => if last < 256 then none else some (max 256 first, last)) ++
    s.wideOthers.map fun c => (c, c)

def isWide (s : CharSet) : Bool :=
  (!s.wideRanges.isEmpty && !s.hasNegated) || s.hasProperty

def isWideOnly (s : CharSet) : Bool :=
  s.items.all fun
    | .range first _ => 255 < first
    | _ => false

/-- Whether a class that is no more than its table holds of no further characters. -/
def isNarrow (s : CharSet) : Bool := !s.isWide && s.negated == s.hasNegated

end CharSet

end RuleRegex
