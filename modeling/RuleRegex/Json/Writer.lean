import RuleRegex.Json.Value

/-!
# Writing JSON

A value is written on one line in ASCII: a space after each comma and colon, and escapes for quotes,
backslashes, control characters and everything beyond ASCII.

## Main definitions

* `Json.quote` — a string with its quotes.
* `Json.write` — the text of a value.
-/

namespace RuleRegex

namespace Json

def hexChar (n : Nat) : Char := if n < 10 then Char.ofNat (48 + n) else Char.ofNat (87 + n)

def unicodeEscapeOf (n : Nat) : List Char :=
  ['\\', 'u', hexChar (n / 4096 % 16), hexChar (n / 256 % 16), hexChar (n / 16 % 16), hexChar (n % 16)]

def escaped (p : CodePoint) : List Char :=
  if p.is '"' then ['\\', '"']
  else if p.is '\\' then ['\\', '\\']
  else if p.is '\n' then ['\\', 'n']
  else if p.is '\r' then ['\\', 'r']
  else if p.is '\t' then ['\\', 't']
  else if p.val = 8 then ['\\', 'b']
  else if p.val = 12 then ['\\', 'f']
  else if 32 ≤ p.val ∧ p.val < 127 then [Char.ofNat p.val]
  else if p.val < 0x10000 then unicodeEscapeOf p.val
  else
    let n := p.val - 0x10000
    unicodeEscapeOf (0xD800 + n / 0x400) ++ unicodeEscapeOf (0xDC00 + n % 0x400)

def quote (text : List CodePoint) : List Char := '"' :: (text.flatMap escaped ++ ['"'])

mutual

def write : Json → List Char
  | .null => "null".toList
  | .bool true => "true".toList
  | .bool false => "false".toList
  | .int i => (toString i).toList
  | .real text => CodePoint.toChars text
  | .str text => quote text
  | .arr [] => "[]".toList
  | .arr (v :: vs) => '[' :: (write v ++ writeItems vs)
  | .obj [] => ['\x7b', '\x7d']
  | .obj ((name, v) :: ms) => '\x7b' :: (quote name ++ [':', ' '] ++ write v ++ writeMembers ms)

/-- The text of the further items of an array, with the bracket that closes it. -/
def writeItems : List Json → List Char
  | [] => [']']
  | v :: vs => ',' :: ' ' :: (write v ++ writeItems vs)

/-- The text of the further members of an object, with the brace that closes it. -/
def writeMembers : List (List CodePoint × Json) → List Char
  | [] => ['\x7d']
  | (name, v) :: ms => ',' :: ' ' :: (quote name ++ [':', ' '] ++ write v ++ writeMembers ms)

end

end Json

end RuleRegex
