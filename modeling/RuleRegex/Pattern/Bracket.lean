import RuleRegex.Pattern.Backslash
import RuleRegex.Unicode.Folding
import RuleRegex.Pattern.Syntax

/-!
# Bracketed classes

## Main definitions

* `Read.property` — reads what follows the escape for a property.
* `Read.bracket` — reads a bracketed class.
-/

namespace RuleRegex

open Unicode (Property)

namespace Read

/-- The characters that do not count in the name of a property. -/
def isPropertySeparator (s : Symbol) : Bool := s.isIn ['_', '-', ' '] || (9 ≤ s.code && s.code ≤ 13)

def longestPropertyName : Nat := 48

/-- The characters of the name of a property up to the closing brace, in lower case, and what follows
the brace. There is room for so many more characters. -/
def propertyName (room : Nat) : Symbols → Except Halt (List Char × Symbols)
  | [] => stop .malformedProperty []
  | a :: rest =>
    if isPropertySeparator a then propertyName room rest
    else if a.code = 0 then stop .malformedProperty rest
    else if a.is '\x7d' then .ok ([], rest)
    else match room with
      | 0 => stop .malformedProperty rest
      | room + 1 => do
        let c := Char.ofNat (if a.isUpper then a.code + 32 else a.code)
        let (name, t) ← propertyName room rest
        return (c :: name, t)

def propertyNamed? (name : List Char) : Option Property :=
  let isMark (c : Char) : Bool := c == ':' || c == '='
  let value := match name.dropWhile (!isMark ·) with
    | [] => none
    | _ :: v => some (String.ofList v)
  Property.named? (String.ofList (name.takeWhile (!isMark ·))) value

/-- The property after its escape, whether a circumflex negates it, and what follows. -/
def property (s : Symbols) : Except Halt (Property × Bool × Symbols) := do
  let named (name : List Char) (negated : Bool) (t : Symbols) :
      Except Halt (Property × Bool × Symbols) :=
    match propertyNamed? name with
    | some p => .ok (p, negated, t)
    | none => stop .unknownProperty t
  match s with
  | [] => stop .malformedProperty []
  | a :: rest =>
    if a.is '\x7b' then
      let negated := Symbols.startsWith '^' rest
      let inner := if negated then rest.drop 1 else rest
      let (name, t) ← propertyName longestPropertyName inner
      named name negated t
    else if a.isUpper then named [Char.ofNat (a.code + 32)] false rest
    else if a.isLower then named [Char.ofNat a.code] false rest
    else stop .malformedProperty rest (Symbol.byteLength a.code - 1)

/-- What stands before the end of a named class, and what follows that end, if there is one before the
bracketed class ends. `mark` is the character inside the inner brackets. -/
def namedEnd? (mark : Char) : Symbols → Option (Symbols × Symbols)
  | a :: b :: rest =>
    if a.is '\\' && b.isIn [']', '\\'] then
      (namedEnd? mark rest).map fun (inside, after) => (a :: b :: inside, after)
    else if (a.is '[' && b.is mark) || a.is ']' then none
    else if a.is mark && b.is ']' then some ([], rest)
    else (namedEnd? mark (b :: rest)).map fun (inside, after) => (a :: inside, after)
  | _ => none

/-- The inner part of a named class, its mark, and what follows, after an opening bracket. -/
def namedPart? (s : Symbols) : Option (Char × Symbols × Symbols) :=
  match s with
  | a :: rest =>
    if a.isIn [':', '.', '='] then
      let mark := Char.ofNat a.code
      (namedEnd? mark rest).map fun (inside, after) => (mark, inside, after)
    else none
  | [] => none

def classNames : List (String × NamedClass) :=
  [("alpha", .alpha), ("lower", .lower), ("upper", .upper), ("alnum", .alnum), ("ascii", .ascii),
    ("blank", .blank), ("cntrl", .cntrl), ("digit", .digit), ("graph", .graph), ("print", .print),
    ("punct", .punct), ("space", .space), ("word", .word), ("xdigit", .xdigit)]

def namedItem (unicode : Bool) (c : NamedClass) (negated : Bool) : SetItem :=
  if !unicode then .named c negated
  else match c with
    | .alpha => .property (.group 'L') negated
    | .lower => .property (.category "Ll") negated
    | .upper => .property (.category "Lu") negated
    | .alnum => .property .alphanumeric negated
    | .blank => .kind .horizontal negated
    | .cntrl => .property (.category "Cc") negated
    | .digit => .property (.category "Nd") negated
    | .graph => .property .graphic negated
    | .print => .property .printing negated
    | .punct => .property .punctuation negated
    | .space => .property .blank negated
    | .word => .property .word negated
    | .ascii | .xdigit => .named c negated

/-- The kind of characters of a letter after a backslash, and whether the letter negates it. -/
def kindOf? (letter : Char) : Option (CharKind × Bool) :=
  [('d', .digit), ('s', .space), ('w', .word), ('h', .horizontal), ('v', .vertical)].findSome?
    fun ((c, k) : Char × CharKind) =>
      if letter = c then some (k, false) else if letter = c.toUpper then some (k, true) else none

def kindProperty? : CharKind → Option Property
  | .digit => some (.category "Nd")
  | .space => some .blank
  | .word => some .word
  | .horizontal | .vertical => none

def kindItem (unicode : Bool) (k : CharKind) (negated : Bool) : SetItem :=
  match if unicode then kindProperty? k else none with
  | some p => .property p negated
  | none => .kind k negated

/-- Whether the last part of a class can begin a range. -/
inductive RangeState where
  | no
  | possible
  | started
  deriving DecidableEq

/-- What a bracketed class has so far: its parts, last first. -/
structure BracketState where
  items : List SetItem := []
  range : RangeState := .no
  literal : Bool := false

structure BracketContext where
  extendedMore : Bool
  unicode : Bool
  opened : Nat

/-- What is left from the last symbol before `after` on. -/
def lastBefore (before after : Symbols) : Symbols := before.drop (before.length - after.length - 1)

/-- The class with one more character. `before` is what was left before the character, `after` what is
left now. -/
def addCharacter (b : BracketState) (c : Nat) (before after : Symbols) : Except Halt BracketState :=
  match b.range, b.items with
  | .started, .range first _ :: items =>
    if c < first then stop .rangeOutOfOrder (lastBefore before after)
    else .ok { b with items := .range first c :: items, range := .no }
  | _, items => .ok { b with items := .range c c :: items, range := .possible }

/-- Refuses a hyphen after a part that can begin no range, unless the class ends there. -/
def refuseHyphen (s : Symbols) : Except Halt Unit :=
  match s with
  | a :: b :: _ => if a.is '-' && !b.is ']' then stop .invalidRange s else .ok ()
  | _ => .ok ()

/-- The class after a backslash in it. `before` is what was left at the backslash, `s` what follows. -/
def bracketEscape (x : BracketContext) (b : BracketState) (before s : Symbols) :
    Except Halt (BracketState × Symbols) := do
  let (e, t) ← escape true x.opened s
  match e with
  | .char c => return (← addCharacter b c before t, t)
  | .backreference _ => stop .escapeInClass t 1
  | .special letter =>
    if letter = 'b' then return (← addCharacter b 8 before t, t)
    else if letter = 'Q' then return ({ b with literal := true }, t)
    else if letter = 'E' then return (b, t)
    else if letter ∈ ['B', 'R', 'X'] then stop .escapeInClass t 1
    else if b.range = .started then stop .invalidRange t
    else if letter = 'N' then stop .notNewlineInClass t
    else
      let (item, t) ← match kindOf? letter with
        | some (k, negated) => pure (kindItem x.unicode k negated, t)
        | none =>
          if letter = 'p' ∨ letter = 'P' then do
            let (p, circumflex, t) ← property t
            pure (SetItem.property p ((letter = 'P') != circumflex), t)
          else stop .escapeInClass t 1
      refuseHyphen t
      return ({ b with items := item :: b.items, range := .no }, t)

/-- The class after a named class in it, whose parts are given. `s` is what follows the opening
bracket. -/
def bracketNamed (x : BracketContext) (b : BracketState) (before s : Symbols)
    (part : Char × Symbols × Symbols) : Except Halt (BracketState × Symbols) := do
  let (mark, inside, t) := part
  if b.range = .started then stop .invalidRange s
  else if mark ≠ ':' then stop .collatingElement before
  else
    let negated := Symbols.startsWith '^' inside
    let name := if negated then inside.drop 1 else inside
    match classNames.lookup (String.ofList (name.map fun a => Char.ofNat a.code)) with
    | none => stop .unknownPosixClass (s.drop (if negated then 2 else 1))
    | some c =>
      refuseHyphen t
      return ({ b with items := namedItem x.unicode c negated :: b.items, range := .no }, t)

def bracketStep (x : BracketContext) (b : BracketState) (a : Symbol) (rest : Symbols) :
    Except Halt (BracketState × Symbols) :=
  if b.literal then
    if a.is '\\' && Symbols.startsWith 'E' rest then .ok ({ b with literal := false }, rest.drop 1)
    else (addCharacter b a.code (a :: rest) rest).map (·, rest)
  else if x.extendedMore && a.isIn [' ', '\t'] then .ok (b, rest)
  else if a.is '[' then
    match namedPart? rest with
    | some part => bracketNamed x b (a :: rest) rest part
    | none => (addCharacter b a.code (a :: rest) rest).map (·, rest)
  else if a.is '-' && b.range = .possible then .ok ({ b with range := .started }, rest)
  else if a.is '\\' then bracketEscape x b (a :: rest) rest
  else (addCharacter b a.code (a :: rest) rest).map (·, rest)

/-- The parts of a class from the symbol `a` on, up to the closing bracket. The first symbol is a part
whatever it is. -/
def bracketParts (x : BracketContext) :
    Nat → BracketState → Symbol → Symbols → Except Halt (List SetItem × Symbols)
  | 0, _, _, rest => stop .unclosedClass rest
  | fuel + 1, b, a, rest => do
    let (b, t) ← bracketStep x b a rest
    match t with
    | [] => stop .unclosedClass []
    | c :: u =>
      if c.is ']' && !b.literal then
        let items := if b.range = .started then .range 45 45 :: b.items else b.items
        return (items.reverse, u)
      else bracketParts x fuel b c u

/-- Whether a circumflex negates a class, its first symbol and what follows that. Empty quotations
before either do not count. -/
def bracketStart (extendedMore negated : Bool) (last : Symbol) :
    Nat → Symbols → Bool × Symbol × Symbols
  | 0, s => (negated, last, s)
  | fuel + 1, s =>
    match s with
    | [] => (negated, last, [])
    | a :: rest =>
      if a.is '\\' then
        if Symbols.startsWith 'E' rest then bracketStart extendedMore negated a fuel (rest.drop 1)
        else match Symbols.after? ['Q', '\\', 'E'] rest with
          | some t => bracketStart extendedMore negated a fuel t
          | none => (negated, a, rest)
      else if extendedMore && a.isIn [' ', '\t'] then bracketStart extendedMore negated a fuel rest
      else if !negated && a.is '^' then bracketStart extendedMore true a fuel rest
      else (negated, a, rest)

/-- The item that a class is. A class of one character is that character, and one of the two cases of a
character is that character without regard to case. -/
def bracketItem (caseless negated : Bool) (items : List SetItem) : Single :=
  match items with
  | [.range first last] =>
    if first = last then
      if negated then .notChar first caseless else .char first caseless
    else .set ⟨items, negated, caseless⟩
  | [.range a b, .range c d] =>
    if a = b ∧ c = d ∧ !negated ∧ Unicode.otherCases a = [c] then .char a true
    else .set ⟨items, negated, caseless⟩
  | _ => .set ⟨items, negated, caseless⟩

/-- A bracketed class after its opening bracket, which is the symbol given, and what follows. -/
def bracket (x : BracketContext) (caseless : Bool) (opening : Symbol) (s : Symbols) :
    Except Halt (Single × Symbols) := do
  match namedPart? s with
  | some (mark, _, _) =>
    stop (if mark = ':' then .posixOutsideClass else .collatingElement) (opening :: s)
  | none =>
    let (negated, first, rest) := bracketStart x.extendedMore false opening (s.length + 1) s
    let (items, t) ← bracketParts x (rest.length + 1) {} first rest
    return (bracketItem caseless negated items, t)

end Read

end RuleRegex
