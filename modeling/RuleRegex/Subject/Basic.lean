import RuleRegex.Pattern.Syntax

/-!
# Subjects

A subject is valid UTF-8, but a pattern can take it apart byte by byte. A byte that continues a character
and is come upon alone stands for its own value.

## Main definitions

* `Subject` — the bytes of a subject.
* `Subject.char?`, `Subject.previous` — the character at a position, and where the one before it begins.
* `Subject.lineBreak?`, `Subject.lineBreakBefore?` — the line break at a position and before one.
-/

namespace RuleRegex

structure Subject where
  bytes : ByteArray

namespace Subject

def ofBytes (bytes : List UInt8) : Subject := ⟨⟨bytes.toArray⟩⟩

def size (s : Subject) : Nat := s.bytes.size

/-- The byte at a position; past the end it is zero. -/
def byteAt (s : Subject) (i : Nat) : Nat := if h : i < s.bytes.size then s.bytes[i].toNat else 0

/-- The value of the bits that a continuing byte adds. -/
def tail (s : Subject) (i : Nat) : Nat := s.byteAt i % 64

/-- The character at a position, and the position after it. -/
def char? (s : Subject) (i : Nat) : Option (Nat × Nat) :=
  if s.size ≤ i then none
  else
    let b := s.byteAt i
    if b < 0xC0 then some (b, i + 1)
    else if b < 0xE0 then some ((b - 0xC0) * 64 + s.tail (i + 1), i + 2)
    else if b < 0xF0 then
      some (((b - 0xE0) * 64 + s.tail (i + 1)) * 64 + s.tail (i + 2), i + 3)
    else
      some ((((b - 0xF0) * 64 + s.tail (i + 1)) * 64 + s.tail (i + 2)) * 64 + s.tail (i + 3), i + 4)

/-- The position at which the character at a position begins, at most so many bytes before it. -/
def startOf (s : Subject) : Nat → Nat → Nat
  | 0, i => i
  | most + 1, i => if 0 < i ∧ 0x80 ≤ s.byteAt i ∧ s.byteAt i < 0xC0 then s.startOf most (i - 1) else i

def previous (s : Subject) (i : Nat) : Nat := s.startOf 3 (i - 1)

def codeBefore? (s : Subject) (i : Nat) : Option Nat :=
  if i = 0 then none else (s.char? (s.previous i)).map (·.1)

def isByte (s : Subject) (i : Nat) (b : Nat) : Bool := i < s.size && s.byteAt i == b

/-- The length of the line break at a position. -/
def lineBreak? (s : Subject) (l : LineBreak) (i : Nat) : Option Nat :=
  let pair : Bool := s.isByte i 13 && s.isByte (i + 1) 10
  match l with
  | .cr => if s.isByte i 13 then some 1 else none
  | .lf => if s.isByte i 10 then some 1 else none
  | .nul => if s.isByte i 0 then some 1 else none
  | .crlf => if pair then some 2 else none
  | .anyCrlf => if pair then some 2 else if s.isByte i 10 || s.isByte i 13 then some 1 else none
  | .any =>
    if pair then some 2
    else match s.char? i with
      | some (c, next) => if Unicode.isVerticalBlank c then some (next - i) else none
      | none => none

def lineBreakBefore (s : Subject) (l : LineBreak) (i : Nat) : Bool :=
  0 < i && match l with
    | .cr => s.byteAt (i - 1) == 13
    | .lf => s.byteAt (i - 1) == 10
    | .nul => s.byteAt (i - 1) == 0
    | .crlf => 2 ≤ i && s.byteAt (i - 2) == 13 && s.byteAt (i - 1) == 10
    | .anyCrlf => s.byteAt (i - 1) == 10 || s.byteAt (i - 1) == 13
    | .any => (s.codeBefore? i).any Unicode.isVerticalBlank

end Subject

end RuleRegex
