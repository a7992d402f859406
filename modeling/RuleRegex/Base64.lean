import RuleRegex.Text.CodePoint
import RuleRegex.Text.Quoted

/-!
# Base64

Three bytes are four characters of six bits each; a last group of one or two bytes is filled up with
padding. Reading is strict: nothing is skipped.

## Main definitions

* `Base64.encode` — the characters of bytes.
* `Base64.Fault` — why a text is not read.
* `Base64.decode` — the bytes of a text.
-/

namespace RuleRegex

namespace Base64

def digit (n : Fin 64) : Char :=
  if n.val < 26 then Char.ofNat (65 + n.val)
  else if n.val < 52 then Char.ofNat (71 + n.val)
  else if n.val < 62 then Char.ofNat (n.val - 4)
  else if n.val = 62 then '+' else '/'

def digitValue? (p : CodePoint) : Option (Fin 64) :=
  let n := p.val
  if h : 65 ≤ n ∧ n < 91 then some ⟨n - 65, by omega⟩
  else if h : 97 ≤ n ∧ n < 123 then some ⟨n - 71, by omega⟩
  else if h : 48 ≤ n ∧ n < 58 then some ⟨n + 4, by omega⟩
  else if n = 43 then some 62
  else if n = 47 then some 63
  else none

/-- The bits of a number from a place on, as a digit. -/
def digitAt (n place : Nat) : Char := digit (Fin.ofNat 64 (n / place))

def encode : List UInt8 → List Char
  | [] => []
  | [a] =>
    let n := a.toNat * 0x10000
    [digitAt n 0x40000, digitAt n 0x1000, '=', '=']
  | [a, b] =>
    let n := a.toNat * 0x10000 + b.toNat * 0x100
    [digitAt n 0x40000, digitAt n 0x1000, digitAt n 0x40, '=']
  | a :: b :: c :: rest =>
    let n := a.toNat * 0x10000 + b.toNat * 0x100 + c.toNat
    digitAt n 0x40000 :: digitAt n 0x1000 :: digitAt n 0x40 :: digitAt n 1 :: encode rest

inductive Fault where
  /-- A character beyond ASCII, where it stands, and how many follow each other there. -/
  | beyondAscii (first : CodePoint) (position count : Nat)
  | leadingPadding
  | excessData
  | strayCharacter
  | interruptedPadding
  /-- The last group has a single character. -/
  | lonelyCharacter (count : Nat)
  | missingPadding
  deriving DecidableEq, Repr

def Fault.message : Fault → String
  | beyondAscii first position count =>
    if count = 1 then
      "'ascii' codec can't encode character '" ++ String.ofList (Quoted.numbered first.val) ++
        "' in position " ++ toString position ++ ": ordinal not in range(128)"
    else
      "'ascii' codec can't encode characters in position " ++ toString position ++ "-" ++
        toString (position + count - 1) ++ ": ordinal not in range(128)"
  | leadingPadding => "Leading padding not allowed"
  | excessData => "Excess data after padding"
  | strayCharacter => "Only base64 data is allowed"
  | interruptedPadding => "Discontinuous padding not allowed"
  | lonelyCharacter count =>
    "Invalid base64-encoded string: number of data characters (" ++ toString count ++
      ") cannot be 1 more than a multiple of 4"
  | missingPadding => "Incorrect padding"

/-- The six-bit digits of a text. `count` digits have been read, with `pads` signs of padding after
them. -/
def digits (count pads : Nat) : List CodePoint → Except Fault (List (Fin 64))
  | [] =>
    if count % 4 = 1 then .error (.lonelyCharacter count)
    else if count % 4 = 0 then .ok []
    else .error .missingPadding
  | p :: rest =>
    if p.is '=' then
      if 2 ≤ count % 4 ∧ 4 ≤ count % 4 + (pads + 1) then
        if rest.isEmpty then .ok [] else .error .excessData
      else digits count (pads + 1) rest
    else match digitValue? p with
      | none => .error .strayCharacter
      | some d =>
        if 0 < pads then .error .interruptedPadding
        else match digits (count + 1) 0 rest with
          | .error f => .error f
          | .ok ds => .ok (d :: ds)

/-- The bytes of digits; bits that fill no byte are dropped. -/
def bytes : List (Fin 64) → List UInt8
  | a :: b :: c :: d :: rest =>
    UInt8.ofNat (a.val * 4 + b.val / 16) :: UInt8.ofNat (b.val % 16 * 16 + c.val / 4) ::
      UInt8.ofNat (c.val % 4 * 64 + d.val) :: bytes rest
  | [a, b, c] =>
    [UInt8.ofNat (a.val * 4 + b.val / 16), UInt8.ofNat (b.val % 16 * 16 + c.val / 4)]
  | [a, b] => [UInt8.ofNat (a.val * 4 + b.val / 16)]
  | _ => []

/-- The fault of the first characters beyond ASCII, if there are some. -/
def beyondAscii? (text : List CodePoint) : Option Fault :=
  match text.dropWhile (·.val < 128) with
  | [] => none
  | p :: rest =>
    some (.beyondAscii p (text.takeWhile (·.val < 128)).length
      ((rest.takeWhile (128 ≤ ·.val)).length + 1))

def decode (text : List CodePoint) : Except Fault (List UInt8) :=
  match beyondAscii? text with
  | some f => .error f
  | none =>
    if (text.head?.map (·.is '=')).getD false then .error .leadingPadding
    else (digits 0 0 text).map bytes

end Base64

end RuleRegex
