import RuleRegex.Text.Utf8

/-!
# Faults of UTF-8

The engine takes valid UTF-8 only, and says what is wrong with the first sequence that is not. It knows
the longer sequences that UTF-8 once had, so as to say that they are not allowed.

## Main definitions

* `Utf8.Fault` — what can be wrong with a sequence.
* `Utf8.firstFault?` — the first fault of bytes, and where its sequence begins.
-/

namespace RuleRegex

namespace Utf8

inductive Fault where
  /-- So many bytes are missing at the end. -/
  | missing (count : Nat)
  /-- The byte at this place in the sequence does not continue it. -/
  | badByte (place : Nat)
  /-- The sequence has a length that is not allowed. -/
  | tooLong (length : Nat)
  | tooLarge
  | surrogate
  /-- The number of a sequence of this length would fit into a shorter one. -/
  | overlong (length : Nat)
  | isolated
  | illegal
  deriving DecidableEq, Repr

def Fault.code : Fault → Int
  | missing count => -2 - count
  | badByte place => -6 - place
  | tooLong length => -8 - length
  | tooLarge => -15
  | surrogate => -16
  | overlong length => -15 - length
  | isolated => -22
  | illegal => -23

def Fault.message (f : Fault) : String :=
  "UTF-8 error: " ++ match f with
    | missing 1 => "1 byte missing at end"
    | missing count => toString count ++ " bytes missing at end"
    | badByte place => "byte " ++ toString place ++ " top bits not 0x80"
    | tooLong length => toString length ++ "-byte character is not allowed (RFC 3629)"
    | tooLarge => "code points greater than 0x10ffff are not defined"
    | surrogate => "code points 0xd800-0xdfff are not defined"
    | overlong length => "overlong " ++ toString length ++ "-byte sequence"
    | isolated => "isolated byte with 0x80 bit set"
    | illegal => "illegal byte (0xfe or 0xff)"

def Fault.all : List Fault :=
  [missing 1, missing 2, missing 3, missing 4, missing 5, badByte 2, badByte 3, badByte 4, badByte 5,
    badByte 6, tooLong 5, tooLong 6, tooLarge, surrogate, overlong 2, overlong 3, overlong 4,
    overlong 5, overlong 6, isolated, illegal]

/-- How many bytes follow a first byte from `0xC0` to `0xFD`. -/
def followers (b : Nat) : Nat :=
  if b < 0xE0 then 1 else if b < 0xF0 then 2 else if b < 0xF8 then 3 else if b < 0xFC then 4 else 5

/-- The fault of a sequence with the given first byte and so many bytes after it, which all are there. -/
def sequenceFault? (first : Nat) (rest : List UInt8) : Option Fault :=
  let second := (rest.headD 0).toNat
  match rest.findIdx? fun b => b.toNat / 64 ≠ 2 with
  | some i => some (.badByte (i + 2))
  | none =>
    match rest.length with
    | 1 => if first < 0xC2 then some (.overlong 2) else none
    | 2 =>
      if first = 0xE0 ∧ second < 0xA0 then some (.overlong 3)
      else if first = 0xED ∧ 0xA0 ≤ second then some .surrogate
      else none
    | 3 =>
      if first = 0xF0 ∧ second < 0x90 then some (.overlong 4)
      else if 0xF4 < first ∨ (first = 0xF4 ∧ 0x8F < second) then some .tooLarge
      else none
    | 4 => if first = 0xF8 ∧ second < 0x88 then some (.overlong 5) else some (.tooLong 5)
    | _ => if first = 0xFC ∧ second < 0x84 then some (.overlong 6) else some (.tooLong 6)

/-- The first fault of bytes from a position on, and where its sequence begins. -/
def firstFaultFrom? (position : Nat) : List UInt8 → Option (Fault × Nat)
  | [] => none
  | b :: rest =>
    let first := b.toNat
    if first < 0x80 then firstFaultFrom? (position + 1) rest
    else if first < 0xC0 then some (.isolated, position)
    else if 0xFE ≤ first then some (.illegal, position)
    else
      let more := followers first
      if rest.length < more then some (.missing (more - rest.length), position)
      else match sequenceFault? first (rest.take more) with
        | some f => some (f, position)
        | none => firstFaultFrom? (position + 1 + more) (rest.drop more)
termination_by bytes => bytes.length
decreasing_by all_goals simp only [List.length_drop, List.length_cons]; omega

def firstFault? (bytes : List UInt8) : Option (Fault × Nat) := firstFaultFrom? 0 bytes

end Utf8

end RuleRegex
