/-!
# Bytes in hexadecimal

## Main definitions

* `Hex.encode` — two lower-case digits for each byte.
* `Hex.decode` — the bytes of pairs of digits, with blanks between the pairs.
-/

namespace RuleRegex

namespace Hex

def digit (n : Nat) : Char := if n < 10 then Char.ofNat (48 + n) else Char.ofNat (87 + n)

/-- The value of a digit in either case. -/
def digitValue? (c : Char) : Option Nat :=
  let n := c.toNat
  if 48 ≤ n ∧ n < 58 then some (n - 48)
  else if 97 ≤ n ∧ n < 103 then some (n - 87)
  else if 65 ≤ n ∧ n < 71 then some (n - 55)
  else none

def encodeByte (b : UInt8) : List Char := [digit (b.toNat / 16), digit (b.toNat % 16)]

def encode (bytes : List UInt8) : List Char := bytes.flatMap encodeByte

def fixed : Nat → Nat → List Char
  | 0, _ => []
  | width + 1, n => fixed width (n / 16) ++ [digit (n % 16)]

def isBlank (c : Char) : Bool := c == ' ' || (9 ≤ c.toNat && c.toNat ≤ 13)

/-- The bytes of pairs of digits, or how much is left at the first character that does not fit. -/
def decodePairs : List Char → Except Nat (List UInt8)
  | [] => .ok []
  | a :: rest =>
    if isBlank a then decodePairs rest
    else match digitValue? a with
      | none => .error (rest.length + 1)
      | some high =>
        match rest with
        | [] => .error 0
        | b :: rest =>
          match digitValue? b with
          | none => .error (rest.length + 1)
          | some low =>
            match decodePairs rest with
            | .error left => .error left
            | .ok bytes => .ok (UInt8.ofNat (16 * high + low) :: bytes)

/-- The bytes of a text, or the position of the first character that does not fit. A character beyond
ASCII is reported before any other. -/
def decode (text : List Char) : Except Nat (List UInt8) :=
  match text.findIdx? (128 ≤ ·.toNat) with
  | some i => .error i
  | none => (decodePairs text).mapError (text.length - ·)

end Hex

end RuleRegex
