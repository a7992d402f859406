import RuleRegex.Json.Value
import RuleRegex.Text.Integer

/-!
# Reading JSON

A document is read from its code points. What is left of the text is the state of the reader, and a
fault is placed by how much was left when it was found. The reader is given so much room to nest in, and
the nesting that is left is what it recurses on.

## Main definitions

* `Json.Fault` — what can be wrong with the text of a document.
* `Json.Failure` — why a document was not read.
* `Json.Room` — how deeply the reader can nest, and how much of that it keeps for reporting a fault.
* `Json.read` — the value of a document.
-/

namespace RuleRegex

namespace Json

inductive Fault where
  | byteOrderMark
  | extraData
  | expectedValue
  | expectedName
  | expectedColon
  | expectedComma
  | unterminatedString
  | controlCharacter
  | badEscape
  | badUnicodeEscape
  deriving DecidableEq, Repr

def Fault.message : Fault → String
  | byteOrderMark => "Unexpected UTF-8 BOM (decode using utf-8-sig)"
  | extraData => "Extra data"
  | expectedValue => "Expecting value"
  | expectedName => "Expecting property name enclosed in double quotes"
  | expectedColon => "Expecting ':' delimiter"
  | expectedComma => "Expecting ',' delimiter"
  | unterminatedString => "Unterminated string starting at"
  | controlCharacter => "Invalid control character at"
  | badEscape => "Invalid \\escape"
  | badUnicodeEscape => "Invalid \\uXXXX escape"

inductive Failure where
  /-- A fault at a position, with the line and the column of that position. -/
  | malformed (fault : Fault) (line column position : Nat)
  /-- An integer of too many digits. -/
  | tooManyDigits (count : Nat)
  /-- Arrays or objects are nested too deeply. -/
  | tooDeep
  deriving DecidableEq, Repr

/-- What the reader has left of the interpreter's bound on calls within calls. That depends on the calls
around the reader and on the interpreter, so the reader is given it. -/
structure Room where
  /-- How many arrays and objects can be open at once. -/
  nesting : Nat
  /-- How many more would have to fit where a fault is found for the fault to be reported. -/
  reserve : Fault → Nat

/-- The room with which the program is run where none is given: about what the calls around the reader leave of
the interpreter's usual bound of a thousand. No lemma is about this room. -/
def Room.usual : Room where
  nesting := 990
  reserve f := if f = .expectedValue then 0 else 2

/-- A failure while reading, placed by how many code points were left. -/
inductive Halt where
  | fault (f : Fault) (left : Nat)
  | tooManyDigits (count : Nat)
  | tooDeep

abbrev Reading (α : Type) := Except Halt (α × List CodePoint)

def halt {α : Type} (f : Fault) (rest : List CodePoint) : Except Halt α :=
  .error (.fault f rest.length)

/-- A result where so much nesting is left: a fault that needs more to be reported is not reported. -/
def reported {α : Type} (reserve : Fault → Nat) (depth : Nat) : Reading α → Reading α
  | .error (.fault f left) =>
    if depth < reserve f then .error .tooDeep else .error (.fault f left)
  | r => r

def isBlank (p : CodePoint) : Bool := p.is ' ' || p.is '\t' || p.is '\n' || p.is '\r'

def skipBlanks (s : List CodePoint) : List CodePoint := s.dropWhile isBlank

def afterWord? : List Char → List CodePoint → Option (List CodePoint)
  | [], s => some s
  | c :: cs, p :: s => if p.is c then afterWord? cs s else none
  | _ :: _, [] => none

def digit? (p : CodePoint) : Option Nat :=
  if 48 ≤ p.val ∧ p.val < 58 then some (p.val - 48) else none

def hexDigit? (p : CodePoint) : Option Nat :=
  if 48 ≤ p.val ∧ p.val < 58 then some (p.val - 48)
  else if 97 ≤ p.val ∧ p.val < 103 then some (p.val - 87)
  else if 65 ≤ p.val ∧ p.val < 71 then some (p.val - 55)
  else none

def isDigit (p : CodePoint) : Bool := (digit? p).isSome

def decimalValue (ds : List CodePoint) : Nat := ds.foldl (fun n p => 10 * n + (p.val - 48)) 0

def fourHex? : List CodePoint → Option Nat
  | a :: b :: c :: d :: _ => do
    return ((← hexDigit? a) * 16 + (← hexDigit? b)) * 256 + (← hexDigit? c) * 16 + (← hexDigit? d)
  | _ => none

/-- The code point of a number, taken modulo the number of code points. -/
def codePoint (n : Nat) : CodePoint := Fin.ofNat 0x110000 n

def simpleEscape? (p : CodePoint) : Option CodePoint :=
  if p.is '"' || p.is '\\' || p.is '/' then some p
  else if p.is 'b' then some 8
  else if p.is 'f' then some 12
  else if p.is 'n' then some 10
  else if p.is 'r' then some 13
  else if p.is 't' then some 9
  else none

/-- What `\u` and the digits after it stand for, and what follows. The text is what stands after the
letter. Two escapes that spell a surrogate pair are one code point, if more text follows them. -/
def unicodeEscape (s : List CodePoint) : Reading CodePoint :=
  if s.length ≤ 4 then .error (.fault .badUnicodeEscape (s.length + 1))
  else match fourHex? s with
    | none => .error (.fault .badUnicodeEscape (s.length + 1))
    | some high =>
      let rest := s.drop 4
      if 0xD800 ≤ high ∧ high < 0xDC00 ∧ 6 < rest.length then
        match afterWord? ['\\', 'u'] rest with
        | none => .ok (codePoint high, rest)
        | some t =>
          match fourHex? t with
          | none => .error (.fault .badUnicodeEscape (t.length + 1))
          | some low =>
            if 0xDC00 ≤ low ∧ low < 0xE000 then
              .ok (codePoint (0x10000 + (high - 0xD800) * 0x400 + (low - 0xDC00)), t.drop 4)
            else .ok (codePoint high, rest)
      else .ok (codePoint high, rest)

/-- The rest of a string after its opening quote. `start` is how much was left at that quote, `acc`
what was read, last first. -/
def stringBody (start : Nat) : Nat → List CodePoint → List CodePoint → Reading (List CodePoint)
  | 0, _, s => halt .unterminatedString s
  | _ + 1, _, [] => .error (.fault .unterminatedString start)
  | fuel + 1, acc, p :: s =>
    if p.is '"' then .ok (acc.reverse, s)
    else if p.is '\\' then
      match s with
      | [] => .error (.fault .unterminatedString start)
      | e :: t =>
        if e.is 'u' then
          match unicodeEscape t with
          | .error h => .error h
          | .ok (q, t) => stringBody start fuel (q :: acc) t
        else match simpleEscape? e with
          | none => halt .badEscape (p :: s)
          | some q => stringBody start fuel (q :: acc) t
    else if p.val < 32 then halt .controlCharacter (p :: s)
    else stringBody start fuel (p :: acc) s

/-- A string, from after its opening quote. -/
def string (s : List CodePoint) : Reading (List CodePoint) :=
  stringBody (s.length + 1) (s.length + 1) [] s

/-- The fraction at the start of the text: a point and digits. -/
def fraction (s : List CodePoint) : List CodePoint × List CodePoint :=
  match s with
  | p :: d :: t =>
    if p.is '.' && isDigit d then
      (p :: d :: t.takeWhile isDigit, t.dropWhile isDigit)
    else ([], s)
  | _ => ([], s)

/-- The exponent at the start of the text: a letter, perhaps a sign, and digits. -/
def exponent (s : List CodePoint) : List CodePoint × List CodePoint :=
  match s with
  | e :: t =>
    if e.is 'e' || e.is 'E' then
      let (sign, u) := match t with
        | g :: u => if g.is '-' || g.is '+' then ([g], u) else ([], t)
        | [] => ([], [])
      let ds := u.takeWhile isDigit
      if ds.isEmpty then ([], s) else (e :: sign ++ ds, u.dropWhile isDigit)
    else ([], s)
  | [] => ([], [])

/-- The digits before any fraction: a single zero, or digits that begin with another one. -/
def wholeDigits (s : List CodePoint) : List CodePoint × List CodePoint :=
  match s with
  | p :: t =>
    if p.is '0' then ([p], t)
    else if isDigit p then (p :: t.takeWhile isDigit, t.dropWhile isDigit)
    else ([], s)
  | [] => ([], [])

def number (s : List CodePoint) : Reading Json :=
  let (sign, t) := match s with
    | p :: t => if p.is '-' then ([p], t) else ([], s)
    | [] => ([], [])
  let (whole, t) := wholeDigits t
  if whole.isEmpty then halt .expectedValue s
  else
    let (frac, t) := fraction t
    let (exp, t) := exponent t
    if frac.isEmpty && exp.isEmpty then
      if Text.digitLimit < whole.length then .error (.tooManyDigits whole.length)
      else
        let n : Int := decimalValue whole
        .ok (.int (if sign.isEmpty then n else -n), t)
    else .ok (.real (sign ++ whole ++ frac ++ exp), t)

def words : List (String × Json) :=
  [("null", .null), ("true", .bool true), ("false", .bool false),
    ("NaN", .real (CodePoint.ofString "NaN")), ("Infinity", .real (CodePoint.ofString "Infinity")),
    ("-Infinity", .real (CodePoint.ofString "-Infinity"))]

def scalar (s : List CodePoint) : Reading Json :=
  match words.findSome? fun (w, v) => (afterWord? w.toList s).map (v, ·) with
  | some r => .ok r
  | none => number s

/-- The items of an array from the first one on, each read by `item`. -/
def items (item : List CodePoint → Reading Json) :
    Nat → List Json → List CodePoint → Reading Json
  | 0, _, s => halt .expectedValue s
  | fuel + 1, acc, s =>
    match item s with
    | .error h => .error h
    | .ok (v, s) =>
      match skipBlanks s with
      | [] => .error (.fault .expectedComma 0)
      | p :: s =>
        if p.is ']' then .ok (.arr (v :: acc).reverse, s)
        else if p.is ',' then items item fuel (v :: acc) (skipBlanks s)
        else halt .expectedComma (p :: s)

def members (item : List CodePoint → Reading Json) :
    Nat → List (List CodePoint × Json) → List CodePoint → Reading Json
  | 0, _, s => halt .expectedName s
  | fuel + 1, acc, s =>
    match s with
    | [] => halt .expectedName []
    | q :: t =>
      if !q.is '"' then halt .expectedName s
      else match string t with
        | .error h => .error h
        | .ok (name, s) =>
          match skipBlanks s with
          | [] => halt .expectedColon []
          | c :: s =>
            if !c.is ':' then halt .expectedColon (c :: s)
            else match item (skipBlanks s) with
              | .error h => .error h
              | .ok (v, s) =>
                match skipBlanks s with
                | [] => halt .expectedComma []
                | p :: s =>
                  if p.is '}' then .ok (.obj ((name, v) :: acc).reverse, s)
                  else if p.is ',' then members item fuel ((name, v) :: acc) (skipBlanks s)
                  else halt .expectedComma (p :: s)

/-- An array, from after its opening bracket, with each item read by `item`. -/
def array (item : List CodePoint → Reading Json) (s : List CodePoint) : Reading Json :=
  match skipBlanks s with
  | [] => halt .expectedValue []
  | q :: t => if q.is ']' then .ok (.arr [], t) else items item (s.length + 1) [] (q :: t)

def object (item : List CodePoint → Reading Json) (s : List CodePoint) : Reading Json :=
  match skipBlanks s with
  | [] => halt .expectedName []
  | q :: t => if q.is '\x7d' then .ok (.obj [], t) else members item (s.length + 1) [] (q :: t)

/-- A value at the start of the text, with at most so many arrays and objects around each other. A fault
inside brackets is reported there, where the nesting that is left is the least. -/
def value (reserve : Fault → Nat) : Nat → List CodePoint → Reading Json
  | depth, [] => reported reserve depth (halt .expectedValue [])
  | depth, p :: s =>
    if p.is '"' then
      reported reserve depth <| match string s with
        | .error h => .error h
        | .ok (text, s) => .ok (.str text, s)
    else if p.is '[' then
      match depth with
      | 0 => .error .tooDeep
      | depth + 1 => reported reserve depth (array (value reserve depth) s)
    else if p.is '\x7b' then
      match depth with
      | 0 => .error .tooDeep
      | depth + 1 => reported reserve depth (object (value reserve depth) s)
    else reported reserve depth (scalar (p :: s))

/-- A document: a value with nothing but blanks around it. -/
def document (room : Room) (s : List CodePoint) : Reading Json :=
  match s with
  | [] => halt .expectedValue []
  | p :: _ =>
    if p.val = 0xFEFF then halt .byteOrderMark s
    else match value room.reserve room.nesting (skipBlanks s) with
      | .error h => .error h
      | .ok (v, t) =>
        match skipBlanks t with
        | [] => .ok (v, [])
        | t => halt .extraData t

/-- The line of a position, counted from one. -/
def lineAt (s : List CodePoint) (position : Nat) : Nat :=
  ((s.take position).filter (·.is '\n')).length + 1

/-- The column of a position in its line, counted from one. -/
def columnAt (s : List CodePoint) (position : Nat) : Nat :=
  ((s.take position).reverse.takeWhile (!·.is '\n')).length + 1

def failure (s : List CodePoint) : Halt → Failure
  | .fault f left =>
    let position := s.length - left
    .malformed f (lineAt s position) (columnAt s position) position
  | .tooManyDigits n => .tooManyDigits n
  | .tooDeep => .tooDeep

def read (s : List CodePoint) (room : Room := .usual) : Except Failure Json :=
  match reported room.reserve room.nesting (document room s) with
  | .error h => .error (failure s h)
  | .ok (v, _) => .ok v

end Json

end RuleRegex
