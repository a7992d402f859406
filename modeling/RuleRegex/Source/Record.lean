import RuleRegex.Source.Basic

/-!
# Sources as records

A source is stored in binary as the length of its pattern in eight bytes, big end first and signed, the
pattern, and one byte for the case flag.

## Main definitions

* `Record.write` — the record of a source.
* `Record.readAt` — the source at an offset, and the offset past it.
* `Record.read` — the source of a record that fills all the bytes.
* `Record.readAll` — the sources of records one after the other.
-/

namespace RuleRegex

namespace Record

def lengthSize : Nat := 8

/-- A number modulo `256 ^ width` in so many bytes, big end first. -/
def bigEndian : Nat → Nat → Bytes
  | 0, _ => []
  | width + 1, n => bigEndian width (n / 256) ++ [UInt8.ofNat n]

def ofBigEndian (bytes : Bytes) : Nat := bytes.foldl (fun n b => 256 * n + b.toNat) 0

def signed (bytes : Bytes) : Int :=
  let n := ofBigEndian bytes
  if n < 0x8000000000000000 then n else (n : Int) - 0x10000000000000000

def write (s : Source) : Bytes :=
  bigEndian lengthSize s.pattern.length ++ s.pattern ++ [if s.caseSensitive then 1 else 0]

inductive Fault where
  | truncatedLength
  | negativeLength (length : Int)
  | truncatedData (needed available : Int)
  | badFlag (b : UInt8)
  | trailing (count : Int)
  /-- An offset before the end that leaves too little for a length. -/
  | nearEnd (offset : Int)
  /-- An offset before the start. -/
  | beforeStart (offset : Int) (size : Nat)
  deriving DecidableEq, Repr

def Fault.message : Fault → String
  | truncatedLength => "Truncated length prefix"
  | negativeLength length => "Negative pattern length " ++ toString length
  | truncatedData needed available =>
    "Truncated data: need " ++ toString needed ++ " bytes, have " ++ toString available
  | badFlag b => "Invalid boolean byte 0x" ++ String.ofList (Hex.encodeByte b)
  | trailing count => toString count ++ " trailing bytes after regex"
  | nearEnd offset =>
    "not enough data to unpack " ++ toString lengthSize ++ " bytes at offset " ++ toString offset
  | beforeStart offset size =>
    "offset " ++ toString offset ++ " out of range for " ++ toString size ++ "-byte buffer"

def notBytesText (kind : String) : String :=
  "memoryview: a bytes-like object is required, not '" ++ kind ++ "'"

/-- The place in so many bytes of an offset, which counts from the end if it is negative. -/
def place (size : Nat) (offset : Int) : Nat :=
  if offset < 0 then (offset + size).toNat else min offset.toNat size

def between (buffer : Bytes) (start stop : Int) : Bytes :=
  let i := place buffer.length start
  (buffer.drop i).take (place buffer.length stop - i)

def lengthAt (buffer : Bytes) (offset : Int) : Except Fault Int :=
  if (buffer.length : Int) < offset + lengthSize then .error .truncatedLength
  else if offset < 0 ∧ 0 < offset + lengthSize then .error (.nearEnd offset)
  else if offset < 0 ∧ offset + buffer.length < 0 then .error (.beforeStart offset buffer.length)
  else .ok (signed ((buffer.drop (place buffer.length offset)).take lengthSize))

/-- The source at an offset, and the offset past it. An offset below zero counts from the end, as do
those computed from it. -/
def readAt (buffer : Bytes) (offset : Int) : Except Fault (Source × Int) := do
  let length ← lengthAt buffer offset
  if length < 0 then throw (.negativeLength length)
  let start := offset + lengthSize
  let stop := start + length
  if (buffer.length : Int) < stop + 1 then
    throw (.truncatedData (stop + 1 - offset) (buffer.length - offset))
  let flag := buffer.getD (place buffer.length stop) 0
  if flag ≠ 0 ∧ flag ≠ 1 then throw (.badFlag flag)
  return (⟨between buffer start stop, flag == 1⟩, stop + 1)

/-- The source of a record that fills all the bytes. -/
def read (buffer : Bytes) : Except Fault Source :=
  match readAt buffer 0 with
  | .error f => .error f
  | .ok (s, stop) =>
    if stop = buffer.length then .ok s else .error (.trailing (buffer.length - stop))

/-- Reads records from an offset on until the bytes end or a record is faulty, at most so many. -/
def readFrom (buffer : Bytes) : Nat → Int → List (Except Fault (Source × Int))
  | 0, _ => []
  | fuel + 1, offset =>
    if offset < buffer.length then
      match readAt buffer offset with
      | .error f => [.error f]
      | .ok (s, stop) => .ok (s, stop) :: readFrom buffer fuel stop
    else []

/-- The sources of records one after the other, each with the offset past it, up to the first fault. A
record has at least nine bytes, so there are no more records than bytes. -/
def readAll (buffer : Bytes) : List (Except Fault (Source × Int)) :=
  readFrom buffer (buffer.length + 1) 0

end Record

end RuleRegex
