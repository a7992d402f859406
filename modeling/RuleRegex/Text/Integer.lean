import RuleRegex.Unicode.Property

/-!
# Integers in text

An integer has perhaps a sign and then decimal digits of any script, with single low lines between
digits, and blanks around it.

## Main definitions

* `stripped` — a text without the blanks around it.
* `integer?` — the integer of a text.
-/

namespace RuleRegex

namespace Text

def isBlank (c : Char) : Bool :=
  let n := c.toNat
  (9 ≤ n && n ≤ 13) || (28 ≤ n && n ≤ 32) || n == 0x85 || n == 0xA0 || n == 0x1680 ||
    (0x2000 ≤ n && n ≤ 0x200A) || n == 0x2028 || n == 0x2029 || n == 0x202F || n == 0x205F ||
    n == 0x3000

def stripped (text : List Char) : List Char :=
  ((text.dropWhile isBlank).reverse.dropWhile isBlank).reverse

/-- The blanks that may stand around an integer: in ASCII fewer than around a word. -/
def isIntegerBlank (c : Char) : Bool :=
  if c.toNat < 127 then c == ' ' || (9 ≤ c.toNat && c.toNat ≤ 13) else isBlank c

def digitValue? (c : Char) : Option Nat :=
  if c.toNat < 127 then if c.isDigit then some (c.toNat - 48) else none
  else Unicode.decimalDigit? c.toNat

/-- The digits of a text with single low lines between them. `afterDigit` says whether a digit came
last; the text must end after a digit. -/
def digits? (afterDigit : Bool) : List Char → Option (List Nat)
  | [] => if afterDigit then some [] else none
  | c :: rest =>
    match digitValue? c with
    | some d => (digits? true rest).map (d :: ·)
    | none => if c = '_' ∧ afterDigit then digits? false rest else none

/-- The interpreter's bound on the digits of an integer in text, in a setting and in a document alike. -/
def digitLimit : Nat := 4300

def integer? (text : List Char) : Option Int := do
  let inner := ((text.dropWhile isIntegerBlank).reverse.dropWhile isIntegerBlank).reverse
  let (negative, body) := match inner with
    | '-' :: body => (true, body)
    | '+' :: body => (false, body)
    | _ => (false, inner)
  let ds ← digits? false body
  if digitLimit < ds.length then none
  else
    let n : Int := (ds.foldl (fun n d => 10 * n + d) 0 : Nat)
    some (if negative then -n else n)

end Text

end RuleRegex
