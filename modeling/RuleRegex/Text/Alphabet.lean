import RuleRegex.Text.CodePoint

/-!
# Alphabets

Patterns are written either in bytes or in characters, and the escapes in them are spelled in ASCII
either way. An alphabet is what the two have in common: every symbol has a code, and the ASCII codes
are those of symbols.

## Main definitions

* `Alphabet` — symbols with codes, the first 128 of which are ASCII.
* `Alphabet.ascii` — the symbol of an ASCII character.
-/

namespace RuleRegex

/-- Symbols that have codes, with every ASCII code among them. -/
class Alphabet (α : Type) where
  /-- The code of a symbol. -/
  code : α → Nat
  /-- The symbol of an ASCII code. -/
  ofAscii : Fin 128 → α
  /-- Different symbols have different codes. -/
  code_injective : ∀ a b : α, code a = code b → a = b
  /-- The symbol of an ASCII code has that code. -/
  code_ofAscii : ∀ i : Fin 128, code (ofAscii i) = i

namespace Alphabet

variable {α : Type} [Alphabet α]

/-- The symbol of an ASCII character. A character beyond ASCII is taken modulo 128; no such character
is ever asked for. -/
def ascii (c : Char) : α := ofAscii (Fin.ofNat 128 c.toNat)

def isAscii (c : Char) (a : α) : Bool := code a == c.toNat

def octalValue? (a : α) : Option (Fin 8) :=
  if h : 48 ≤ code a ∧ code a < 56 then some ⟨code a - 48, by omega⟩ else none

def isOctal (a : α) : Bool := (octalValue? a).isSome

def ofOctal (d : Fin 8) : α := ofAscii ⟨48 + d.val, by omega⟩

/-- The symbol of a hexadecimal digit, in lower case. -/
def ofHex (d : Fin 16) : α :=
  if d.val < 10 then ofAscii ⟨48 + d.val % 10, by omega⟩ else ofAscii ⟨87 + d.val, by omega⟩

end Alphabet

instance : Alphabet UInt8 where
  code b := b.toNat
  ofAscii i := UInt8.ofNat i.val
  code_injective _ _ h := UInt8.toNat.inj h
  code_ofAscii i := by
    have := i.isLt
    simp only [UInt8.toNat_ofNat']
    omega

instance : Alphabet Char where
  code c := c.toNat
  ofAscii i := Char.ofNat i.val
  code_injective a b h := by
    apply Char.ext
    exact UInt32.toNat.inj h
  code_ofAscii := by decide

instance : Alphabet CodePoint where
  code p := p.val
  ofAscii i := ⟨i.val, by omega⟩
  code_injective _ _ h := Fin.ext h
  code_ofAscii _ := rfl

end RuleRegex
