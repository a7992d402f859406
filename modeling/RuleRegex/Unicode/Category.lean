import RuleRegex.Unicode.Data.Category
import RuleRegex.Unicode.Runs

/-!
# General categories

## Main definitions

* `Category` — the two letters of a general category.
* `category` — the general category of a code point.
* `isPrintable` — whether a code point shows as itself in quoted text.
-/

namespace RuleRegex.Unicode

abbrev Category := String

def categories : Runs := Runs.ofText Data.categoryRuns

def category (c : Nat) : Category := categories.value c

def categoryCodes : List Category :=
  ["Cc", "Cf", "Cn", "Co", "Cs", "Ll", "Lm", "Lo", "Lt", "Lu", "Mc", "Me", "Mn", "Nd", "Nl", "No",
    "Pc", "Pd", "Pe", "Pf", "Pi", "Po", "Ps", "Sc", "Sk", "Sm", "So", "Zl", "Zp", "Zs"]

def categoryGroup (c : Nat) : Char := (category c).toList.headD 'C'

def isLetter (c : Nat) : Bool := categoryGroup c == 'L'

def isNumber (c : Nat) : Bool := categoryGroup c == 'N'

/-- Whether a code point shows as itself in quoted text: no control, no separator but the space, and
nothing unassigned. -/
def isPrintable (c : Nat) : Bool :=
  c == 32 || !(categoryGroup c == 'C' || categoryGroup c == 'Z')

/-- The value of a decimal digit of any script. Digits of a script stand together in order, so the
value is the distance from the start of their run modulo ten. -/
def decimalDigit? (c : Nat) : Option Nat :=
  if category c = "Nd" then
    let i := Runs.bisect categories.starts c 0 categories.starts.size - 1
    some ((c - categories.starts.getD i 0) % 10)
  else none

end RuleRegex.Unicode
