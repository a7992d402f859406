/-!
# Code points

Texts of documents may name half of a surrogate pair, which no character stands for. They are lists of
code points, and the characters are among these.

## Main definitions

* `CodePoint` — a number below `0x110000`.
* `CodePoint.ofChar`, `CodePoint.toChar?` — characters as code points.
-/

namespace RuleRegex

/-- A Unicode code point, surrogates included. -/
abbrev CodePoint := Fin 0x110000

namespace CodePoint

def ofChar (c : Char) : CodePoint :=
  ⟨c.toNat, by
    have h : c.toNat.isValidChar := c.valid
    cases h <;> omega⟩

/-- The character of a code point, unless it is a surrogate. -/
def toChar? (p : CodePoint) : Option Char :=
  if p.val.isValidChar then some (Char.ofNat p.val) else none

/-- The character of a code point; a surrogate gives the replacement character. -/
def toChar (p : CodePoint) : Char := (toChar? p).getD '\ufffd'

def ofString (s : String) : List CodePoint := s.toList.map ofChar

def toChars (ps : List CodePoint) : List Char := ps.map toChar

def toString (ps : List CodePoint) : String := String.ofList (toChars ps)

def is (c : Char) (p : CodePoint) : Bool := p.val == c.toNat

theorem toChar?_ofChar (c : Char) : toChar? (ofChar c) = some c := by
  have h : c.toNat.isValidChar := c.valid
  simp [toChar?, ofChar, h]

end CodePoint

end RuleRegex
