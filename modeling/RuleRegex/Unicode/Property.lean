import RuleRegex.Unicode.Bidi
import RuleRegex.Unicode.Binary
import RuleRegex.Unicode.Script

/-!
# Properties in patterns

## Main definitions

* `Property` — what a pattern can ask of a code point.
* `Property.holds` — whether a code point has a property.
* `Property.named?` — the property of a name.
-/

namespace RuleRegex.Unicode

inductive Property where
  | any
  /-- Letters that have a case. -/
  | cased
  /-- The general categories that begin with a letter. -/
  | group (letter : Char)
  | category (code : Category)
  | script (s : Script)
  | scriptExtension (s : Script)
  | bidi (value : String)
  | binary (place : Nat)
  | alphanumeric
  | blank
  | word
  /-- What universal character names can name. -/
  | universal
  | graphic
  | printing
  | punctuation
  deriving DecidableEq, Repr

def isHorizontalBlank (c : Nat) : Bool :=
  c == 9 || c == 32 || c == 0xA0 || c == 0x1680 || c == 0x180E || (0x2000 ≤ c && c ≤ 0x200A) ||
    c == 0x202F || c == 0x205F || c == 0x3000

def isVerticalBlank (c : Nat) : Bool :=
  (10 ≤ c && c ≤ 13) || c == 0x85 || c == 0x2028 || c == 0x2029

def isWord (c : Nat) : Bool := isLetter c || isNumber c || c == 95

/-- Format characters that leave a mark. -/
def isVisibleFormat (c : Nat) : Bool :=
  Unicode.category c = "Cf" && c != 0x61C && !(0x2066 ≤ c && c ≤ 0x2069)

namespace Property

def holds : Property → Nat → Bool
  | any, _ => true
  | cased, c => Unicode.category c ∈ ["Lu", "Ll", "Lt"]
  | group letter, c => categoryGroup c == letter
  | category code, c => Unicode.category c = code
  | script s, c => Unicode.script c = s
  | scriptExtension s, c => s ∈ scriptExtensions c
  | bidi value, c => bidiClass c = value
  | binary place, c => hasBinary place c
  | alphanumeric, c => isLetter c || isNumber c
  | blank, c => isHorizontalBlank c || isVerticalBlank c || categoryGroup c == 'Z'
  | word, c => isWord c
  | universal, c => c == 36 || c == 64 || c == 96 || (0xA0 ≤ c && c ≤ 0xD7FF) || 0xE000 ≤ c
  | graphic, c =>
    categoryGroup c != 'Z' && (categoryGroup c != 'C' || (isVisibleFormat c && c != 0x180E))
  | printing, c =>
    !(Unicode.category c ∈ ["Zl", "Zp"]) && (categoryGroup c != 'C' || isVisibleFormat c)
  | punctuation, c => categoryGroup c == 'P' || (c < 128 && categoryGroup c == 'S')

def special : List (String × Property) :=
  [("any", any), ("l&", cased), ("lc", cased), ("xan", alphanumeric), ("xps", blank), ("xsp", blank),
    ("xuc", universal), ("xwd", word)]

def categoryNamed? (name : String) : Option Property :=
  match name.toList with
  | [a] =>
    if a.toUpper ∈ ['C', 'L', 'M', 'N', 'P', 'S', 'Z'] && a.isLower then some (group a.toUpper)
    else none
  | [a, b] =>
    let code := String.ofList [a.toUpper, b]
    if code ∈ categoryCodes && a.isLower then some (category code) else none
  | _ => none

def bidiPrefixed? (name : String) : Option Property :=
  match name.toList with
  | 'b' :: 'i' :: 'd' :: 'i' :: rest => (bidiNamed? (String.ofList rest)).map bidi
  | _ => none

/-- The property of a name in lower case, without the separators that do not count. -/
def plain? (name : String) : Option Property :=
  ((special.find? (·.1 = name)).map (·.2)).or <|
    (categoryNamed? name).or <|
      ((scriptNamed? name).map scriptExtension).or <|
        (bidiPrefixed? name).or ((binaryNamed? name).map binary)

def named? (name : String) (value : Option String) : Option Property :=
  match value with
  | none => plain? name
  | some v =>
    if name = "bidiclass" ∨ name = "bc" then (bidiNamed? v).map bidi
    else if name = "script" ∨ name = "sc" then (scriptNamed? v).map script
    else if name = "scriptextensions" ∨ name = "scx" then (scriptNamed? v).map scriptExtension
    else none

end Property

end RuleRegex.Unicode
