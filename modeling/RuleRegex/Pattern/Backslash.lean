import RuleRegex.Pattern.Symbol

/-!
# What follows a backslash

## Main definitions

* `Escaped` — what a backslash and the characters after it stand for.
* `Read.escape` — reads it.
-/

namespace RuleRegex

inductive Escaped where
  | char (c : Nat)
  | backreference (group : Nat)
  /-- A letter with a meaning of its own. -/
  | special (letter : Char)
  deriving DecidableEq, Repr

namespace Read

def letterValues : List (Char × Nat) :=
  [('a', 7), ('e', 27), ('f', 12), ('n', 10), ('r', 13), ('t', 9)]

def specialLetters : List Char :=
  ['A', 'B', 'C', 'D', 'E', 'G', 'H', 'K', 'N', 'P', 'Q', 'R', 'S', 'V', 'W', 'X', 'Z', 'b', 'd', 'h',
    'k', 'p', 's', 'v', 'w', 'z']

def largestCodePoint : Nat := 0x10FFFF

/-- The digits of a braced number as a number in the given base that follows `n`, and what follows
them. A number that is too large is reported after all its digits. -/
def bracedDigits (base : Nat) (value? : Symbol → Option Nat) (n : Nat) :
    Symbols → Except Halt (Nat × Symbols)
  | [] => .ok (n, [])
  | s :: rest =>
    match value? s with
    | none => .ok (n, s :: rest)
    | some d =>
      let n := base * n + d
      if largestCodePoint < n then
        stop .codePointTooLarge (rest.dropWhile fun t => (value? t).isSome)
      else bracedDigits base value? n rest

def braced (base : Nat) (value? : Symbol → Option Nat) (badDigit : Flaw) (s : Symbols) :
    Except Halt (Escaped × Symbols) :=
  if s.isEmpty || Symbols.startsWith '\x7d' s then stop .digitsMissing s
  else do
    let (n, t) ← bracedDigits base value? 0 s
    match t with
    | [] => stop badDigit [] 1
    | a :: u =>
      if !a.is '\x7d' then stop badDigit t
      else if 0xD800 ≤ n ∧ n < 0xE000 then stop .surrogate t
      else return (.char n, u)

def octalValue? (s : Symbol) : Option Nat := if s.isOctal then some (s.code - 48) else none

/-- Up to so many octal digits as a number that follows `n`. -/
def octalDigits : Nat → Nat → Symbols → Nat × Symbols
  | 0, n, s => (n, s)
  | _ + 1, n, [] => (n, [])
  | count + 1, n, s :: rest =>
    if s.isOctal then octalDigits count (8 * n + (s.code - 48)) rest else (n, s :: rest)

def twoHexDigits (s : Symbols) : Nat × Symbols :=
  match s with
  | [] => (0, [])
  | a :: t =>
    match a.hexValue? with
    | none => (0, s)
    | some high =>
      match t with
      | [] => (high, [])
      | b :: u =>
        match b.hexValue? with
        | none => (high, t)
        | some low => (16 * high + low, u)

/-- After a backslash and a digit other than zero. `digit` is that digit, `rest` what follows it. -/
def digitEscape (inClass : Bool) (opened : Nat) (digit : Symbol) (rest : Symbols) :
    Except Halt (Escaped × Symbols) :=
  let asCharacter : Except Halt (Escaped × Symbols) :=
    if 56 ≤ digit.code then .ok (.char digit.code, rest)
    else
      let (n, t) := octalDigits 2 (digit.code - 48) rest
      .ok (.char n, t)
  if inClass then asCharacter
  else match number? 214748363 .groupNumberTooBig (digit :: rest) with
    | .ok (some (n, t)) =>
      if n < 10 ∨ 56 ≤ digit.code ∨ n ≤ opened then
        if largestGroup < n then stop .groupNumberTooBig t else .ok (.backreference n, t)
      else asCharacter
    | _ => asCharacter

def groupEscape (opened : Nat) (s : Symbols) : Except Halt (Escaped × Symbols) := do
  let positive (n : Nat) (t : Symbols) : Except Halt (Escaped × Symbols) :=
    if n = 0 then stop .noSuchGroup t else .ok (.backreference n, t)
  match s with
  | [] => stop .badGroupEscape []
  | a :: rest =>
    if a.is '<' || a.is '\'' then return (.special 'g', s)
    else if a.is '\x7b' then
      match groupNumber? opened rest with
      | .error h => stop h.flaw s
      | .ok none => return (.special 'k', s)
      | .ok (some (n, t)) =>
        if Symbols.startsWith '\x7d' t then positive n (t.drop 1) else stop .badGroupEscape s
    else match ← groupNumber? opened s with
      | none => stop .badGroupEscape s
      | some (n, t) => positive n t

def controlEscape (s : Symbols) : Except Halt (Escaped × Symbols) :=
  match s with
  | [] => stop .controlAtEnd []
  | a :: rest =>
    let c := if a.isLower then a.code - 32 else a.code
    if c < 32 ∨ 126 < c then stop .badControl s else .ok (.char (c ^^^ 64), rest)

def notNewlineEscape (s : Symbols) : Except Halt (Escaped × Symbols) :=
  match Symbols.after? ['\x7b', 'U', '+'] s with
  | some t => braced 16 Symbol.hexValue? .nonHexDigit t
  | none =>
    if Symbols.startsWith '\x7b' s then
      match counts? (s.drop 1) with
      | .error h => stop h.flaw s
      | .ok none => stop .unsupportedEscape s
      | .ok (some _) => .ok (.special 'N', s)
    else .ok (.special 'N', s)

def octalEscape (s : Symbols) : Except Halt (Escaped × Symbols) :=
  match s with
  | [] => stop .octalBraceMissing [] 1
  | a :: rest =>
    if a.is '\x7b' then braced 8 octalValue? .nonOctalDigit rest else stop .octalBraceMissing s

def hexEscape (s : Symbols) : Except Halt (Escaped × Symbols) :=
  if Symbols.startsWith '\x7b' s then braced 16 Symbol.hexValue? .nonHexDigit (s.drop 1)
  else
    let (n, t) := twoHexDigits s
    .ok (.char n, t)

/-- What a backslash and the characters after it stand for, and what follows. `opened` is the number of
groups opened so far. -/
def escape (inClass : Bool) (opened : Nat) (s : Symbols) : Except Halt (Escaped × Symbols) :=
  match s with
  | [] => stop .backslashAtEnd []
  | a :: rest =>
    if !(a.isDigit || a.isLower || a.isUpper) then .ok (.char a.code, rest)
    else
      let letter := Char.ofNat a.code
      match letterValues.lookup letter with
      | some c => .ok (.char c, rest)
      | none =>
        if letter = 'N' then notNewlineEscape rest
        else if letter ∈ specialLetters then .ok (.special letter, rest)
        else if letter ∈ ['F', 'l', 'L', 'u', 'U'] then stop .unsupportedEscape rest
        else if letter = 'g' then
          if inClass then .ok (.char a.code, rest) else groupEscape opened rest
        else if letter = '0' then
          let (n, t) := octalDigits 2 0 rest
          .ok (.char n, t)
        else if a.isDigit then digitEscape inClass opened a rest
        else if letter = 'o' then octalEscape rest
        else if letter = 'x' then hexEscape rest
        else if letter = 'c' then controlEscape rest
        else stop .unknownEscape s

end Read

end RuleRegex
