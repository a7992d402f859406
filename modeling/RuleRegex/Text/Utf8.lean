/-!
# UTF-8

## Main definitions

* `Utf8.encode` — the bytes of characters.
* `Utf8.decode` — the characters of bytes; what is no character gives replacement characters.
-/

namespace RuleRegex

namespace Utf8

def encode (text : List Char) : List UInt8 := text.flatMap String.utf8EncodeChar

def firstByte (c : Nat) : Nat :=
  if c < 0x80 then c
  else if c < 0x800 then 0xC0 + c / 0x40
  else if c < 0x10000 then 0xE0 + c / 0x1000
  else 0xF0 + c / 0x40000

def lastByte (c : Nat) : Nat := if c < 0x80 then c else 0x80 + c % 0x40

/-- What a first byte says of its sequence: its share of the number, the range of the byte after it,
and how many bytes follow. -/
structure Lead where
  bits : Nat
  low : Nat
  high : Nat
  more : Nat

def lead? (b : Nat) : Option Lead :=
  if b < 0x80 then some ⟨b, 0, 0, 0⟩
  else if b < 0xC2 then none
  else if b < 0xE0 then some ⟨b - 0xC0, 0x80, 0xBF, 1⟩
  else if b = 0xE0 then some ⟨0, 0xA0, 0xBF, 2⟩
  else if b = 0xED then some ⟨13, 0x80, 0x9F, 2⟩
  else if b < 0xF0 then some ⟨b - 0xE0, 0x80, 0xBF, 2⟩
  else if b = 0xF0 then some ⟨0, 0x90, 0xBF, 3⟩
  else if b < 0xF4 then some ⟨b - 0xF0, 0x80, 0xBF, 3⟩
  else if b = 0xF4 then some ⟨4, 0x80, 0x8F, 3⟩
  else none

/-- The number of a sequence whose first byte has been read, and what follows the bytes that fit. -/
def continued : Nat → Nat → Nat → Nat → List UInt8 → Option Nat × List UInt8
  | 0, number, _, _, rest => (some number, rest)
  | _ + 1, _, _, _, [] => (none, [])
  | more + 1, number, low, high, b :: rest =>
    if low ≤ b.toNat ∧ b.toNat ≤ high then
      continued more (64 * number + b.toNat % 64) 0x80 0xBF rest
    else (none, b :: rest)

/-- The first character, and what follows. Bytes that begin a sequence and do not complete it are one
replacement character together. -/
def next (b : UInt8) (rest : List UInt8) : Char × List UInt8 :=
  match lead? b.toNat with
  | none => ('\ufffd', rest)
  | some l =>
    match continued l.more l.bits l.low l.high rest with
    | (some n, rest) => (Char.ofNat n, rest)
    | (none, rest) => ('\ufffd', rest)

theorem length_continued_le (more number low high : Nat) (rest : List UInt8) :
    (continued more number low high rest).2.length ≤ rest.length := by
  induction more generalizing number low high rest with
  | zero => simp [continued]
  | succ n ih =>
    cases rest with
    | nil => simp [continued]
    | cons b rest =>
      unfold continued
      split
      · have := ih (64 * number + b.toNat % 64) 0x80 0xBF rest
        simp only [List.length_cons]
        omega
      · simp

theorem length_next_le (b : UInt8) (rest : List UInt8) : (next b rest).2.length ≤ rest.length := by
  unfold next
  split
  · simp
  · next l _ =>
    have := length_continued_le l.more l.bits l.low l.high rest
    split <;> simp_all

def decode : List UInt8 → List Char
  | [] => []
  | b :: rest => (next b rest).1 :: decode (next b rest).2
termination_by bytes => bytes.length
decreasing_by
  have := length_next_le b rest
  simp only [List.length_cons]
  omega

end Utf8

end RuleRegex
