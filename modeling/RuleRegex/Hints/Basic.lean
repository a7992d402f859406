import RuleRegex.Program.Code

/-!
# Where matches can begin

## Main definitions

* `Hints` — what is known beforehand of the subjects that a program matches.
-/

namespace RuleRegex

/-- A byte, and the other one that stands for it without regard to case. -/
structure ByteHint where
  byte : Nat
  other : Option Nat := none
  deriving DecidableEq, Repr

def ByteHint.holds (u : ByteHint) (b : Nat) : Bool := b == u.byte || u.other == some b

/-- What is known beforehand of the subjects that a program matches. -/
structure Hints where
  /-- A match can begin at the start of the subject only. -/
  anchored : Bool := false
  /-- The byte that every match begins with. -/
  first : Option ByteHint := none
  /-- A match can begin only at the start of the subject or after a line break. -/
  atLine : Bool := false
  /-- The bytes that a match can begin with. -/
  starts : Option (Array Bool) := none
  /-- A byte that is in every match. -/
  required : Option ByteHint := none
  /-- A number of bytes that no match is shorter than. -/
  least : Nat := 0
  deriving Repr, Inhabited

end RuleRegex
