import RuleRegex.Pattern.Flaw
import RuleRegex.Unicode.Category

/-!
# Symbols of a pattern

A pattern is read from its characters, each of which knows where it begins. What is left of them is the
state of the reader, and a fault is placed by what was left when it was found.

## Main definitions

* `Symbol` — a character with its position.
* `Symbol.ofBytes` — the symbols of a pattern.
* `Halt` — a flaw, and what was left.
* `number?`, `counts?`, `groupName`, `asciiName` — the numbers, the repeat counts and the names in a
  pattern.
-/

namespace RuleRegex

/-- A character of a pattern and the position at which it begins. -/
structure Symbol where
  code : Nat
  position : Nat
  deriving Repr, Inhabited

namespace Symbol

def is (c : Char) (s : Symbol) : Bool := s.code == c.toNat

def isIn (cs : List Char) (s : Symbol) : Bool := cs.any (s.is ·)

def isDigit (s : Symbol) : Bool := 48 ≤ s.code && s.code < 58

def isOctal (s : Symbol) : Bool := 48 ≤ s.code && s.code < 56

def isLower (s : Symbol) : Bool := 97 ≤ s.code && s.code < 123

def isUpper (s : Symbol) : Bool := 65 ≤ s.code && s.code < 91

def isAsciiWord (s : Symbol) : Bool := s.isDigit || s.isLower || s.isUpper || s.is '_'

def hexValue? (s : Symbol) : Option Nat :=
  if s.isDigit then some (s.code - 48)
  else if 97 ≤ s.code ∧ s.code < 103 then some (s.code - 87)
  else if 65 ≤ s.code ∧ s.code < 71 then some (s.code - 55)
  else none

def byteLength (code : Nat) : Nat :=
  if code < 0x80 then 1 else if code < 0x800 then 2 else if code < 0x10000 then 3 else 4

/-- The symbols of valid UTF-8 from a position on. `code` and `more` are what is known of a character of
which `more` bytes are to come. -/
def ofBytesFrom (position start code more : Nat) : List UInt8 → List Symbol
  | [] => []
  | b :: rest =>
    let n := b.toNat
    if n < 0x80 then ⟨n, position⟩ :: ofBytesFrom (position + 1) start 0 0 rest
    else if 0xC0 ≤ n then
      let bits := if n < 0xE0 then n - 0xC0 else if n < 0xF0 then n - 0xE0 else n - 0xF0
      let count := if n < 0xE0 then 1 else if n < 0xF0 then 2 else 3
      ofBytesFrom (position + 1) position bits count rest
    else
      let code := 64 * code + (n - 0x80)
      if more ≤ 1 then ⟨code, start⟩ :: ofBytesFrom (position + 1) start 0 0 rest
      else ofBytesFrom (position + 1) start code (more - 1) rest

def ofBytes (bytes : List UInt8) : List Symbol := ofBytesFrom 0 0 0 0 bytes

end Symbol

abbrev Symbols := List Symbol

/-- A flaw, what was left when it was found, and how many bytes before that it is reported. -/
structure Halt where
  flaw : Flaw
  left : Symbols
  back : Nat := 0

namespace Symbols

def position (length : Nat) : Symbols → Nat
  | [] => length
  | s :: _ => s.position

def startsWith (c : Char) : Symbols → Bool
  | s :: _ => s.is c
  | [] => false

def after? : List Char → Symbols → Option Symbols
  | [], s => some s
  | c :: cs, a :: s => if a.is c then after? cs s else none
  | _ :: _, [] => none

end Symbols

def Halt.position (length : Nat) (h : Halt) : Nat := h.left.position length - h.back

def stop {α : Type} (flaw : Flaw) (left : Symbols) (back : Nat := 0) : Except Halt α :=
  .error ⟨flaw, left, back⟩

namespace Read

/-- The digits at the start as a number that follows `n`, up to a largest one. -/
def digits (largest : Nat) (tooBig : Flaw) (n : Nat) : Symbols → Except Halt (Nat × Symbols)
  | [] => .ok (n, [])
  | s :: rest =>
    if s.isDigit then
      let n := 10 * n + (s.code - 48)
      if largest < n then stop tooBig rest else digits largest tooBig n rest
    else .ok (n, s :: rest)

def number? (largest : Nat) (tooBig : Flaw) (s : Symbols) : Except Halt (Option (Nat × Symbols)) :=
  match s with
  | a :: _ => if a.isDigit then (digits largest tooBig 0 s).map some else .ok none
  | [] => .ok none

def largestGroup : Nat := 65535

/-- The number of a group, which may be relative to the groups opened so far. The result can be below one
only without a sign. -/
def groupNumber? (opened : Nat) (s : Symbols) : Except Halt (Option (Nat × Symbols)) :=
  match s with
  | [] => .ok none
  | a :: rest =>
    if a.is '+' then do
      match ← number? (largestGroup - opened) .groupNumberTooBig rest with
      | none => return none
      | some (n, t) => if n = 0 then stop .relativeZero t else return some (opened + n, t)
    else if a.is '-' then do
      match ← number? largestGroup .groupNumberTooBig rest with
      | none => return none
      | some (n, t) =>
        if n = 0 then stop .relativeZero t
        else if opened < n then stop .noSuchGroup t
        else return some (opened + 1 - n, t)
    else number? largestGroup .groupNumberTooBig s

def largestCount : Nat := 65535

/-- The counts in braces after an opening brace, and what follows the closing one, if this is a
quantifier. -/
def counts? (s : Symbols) : Except Halt (Option (Nat × Option Nat × Symbols)) := do
  match ← number? largestCount .countTooBig s with
  | none => return none
  | some (least, t) =>
    match t with
    | [] => return none
    | a :: t =>
      if a.is '\x7d' then return some (least, some least, t)
      else if !a.is ',' then return none
      else match t with
        | [] => return none
        | b :: u =>
          if b.is '\x7d' then return some (least, none, u)
          else match ← number? largestCount .countTooBig t with
            | none => return none
            | some (most, u) =>
              if !Symbols.startsWith '\x7d' u then return none
              else if most < least then stop .countsOutOfOrder u
              else return some (least, some most, u.drop 1)

def longestName : Nat := 32

def isNameChar (code : Nat) : Bool :=
  Unicode.isLetter code || Unicode.category code = "Nd" || code == 95

def nameLength (name : List Nat) : Nat :=
  name.foldr (fun code n => Symbol.byteLength code + n) 0

/-- The name of a group after its opening delimiter, where it begins, and what follows the closing
delimiter. -/
def groupName (terminator : Char) (s : Symbols) : Except Halt (List Nat × Nat × Symbols) :=
  match s with
  | [] => stop .nameExpected []
  | a :: _ =>
    if Unicode.category a.code = "Nd" then stop .nameStartsWithDigit s
    else
      let name := (s.takeWhile (isNameChar ·.code)).map Symbol.code
      let rest := s.dropWhile (isNameChar ·.code)
      if longestName < nameLength name then stop .nameTooLong rest
      else if name.isEmpty then stop .nameExpected rest
      else if !Symbols.startsWith terminator rest then stop .unterminatedName rest
      else .ok (name, a.position, rest.drop 1)

def asciiName (s : Symbols) : Except Halt (String × Symbols) :=
  match s with
  | [] => stop .badVerb []
  | _ =>
    let name := (s.takeWhile Symbol.isAsciiWord).map fun a => Char.ofNat a.code
    let rest := s.dropWhile Symbol.isAsciiWord
    if longestName < name.length then stop .nameTooLong rest else .ok (String.ofList name, rest)

end Read

end RuleRegex
