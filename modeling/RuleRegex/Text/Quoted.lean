import RuleRegex.Text.Hex
import RuleRegex.Unicode.Category

/-!
# Quoted text

Bytes and texts are shown between quotes on one line: double quotes if there is a single quote inside
and no double one, single quotes otherwise.

## Main definitions

* `Quoted.bytes` — how bytes are shown, without the quotes.
* `Quoted.text` — how a text is shown, quotes included.
-/

namespace RuleRegex

namespace Quoted

/-- The quote for a content that has the given quotes inside. -/
def quoteFor (hasSingle hasDouble : Bool) : Char := if hasSingle && !hasDouble then '"' else '\''

def short? (c : Char) : Option (List Char) :=
  if c = '\\' then some ['\\', '\\']
  else if c = '\t' then some ['\\', 't']
  else if c = '\n' then some ['\\', 'n']
  else if c = '\r' then some ['\\', 'r']
  else none

/-- How a byte is shown between the given quotes. -/
def byte (quote : Char) (b : UInt8) : List Char :=
  let c := Char.ofNat b.toNat
  if c = quote then ['\\', c]
  else (short? c).getD <|
    if b.toNat < 32 ∨ 127 ≤ b.toNat then '\\' :: 'x' :: Hex.encodeByte b else [c]

/-- How bytes are shown, without the quotes around them. -/
def bytes (bs : List UInt8) : List Char := bs.flatMap (byte (quoteFor (bs.contains 39) (bs.contains 34)))

def numbered (n : Nat) : List Char :=
  if n < 0x100 then '\\' :: 'x' :: Hex.fixed 2 n
  else if n < 0x10000 then '\\' :: 'u' :: Hex.fixed 4 n
  else '\\' :: 'U' :: Hex.fixed 8 n

def char (quote : Char) (c : Char) : List Char :=
  if c = quote then ['\\', c]
  else (short? c).getD <| if Unicode.isPrintable c.toNat then [c] else numbered c.toNat

/-- How a text is shown, with the quotes around it. -/
def text (cs : List Char) : List Char :=
  let quote := quoteFor (cs.contains '\'') (cs.contains '"')
  quote :: (cs.flatMap (char quote) ++ [quote])

def string (s : String) : String := String.ofList (text s.toList)

end Quoted

end RuleRegex
