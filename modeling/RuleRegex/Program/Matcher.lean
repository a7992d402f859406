import RuleRegex.Subject.Cluster
import RuleRegex.Unicode.Folding

/-!
# Matchers

A matcher is an item for a single character made ready for matching: characters without regard to case
are listed, and what a class says of the first characters is kept in a table.

## Main definitions

* `CharSet.contains` — what a bracketed class says of a character.
* `Matcher` — an item made ready.
* `Matcher.next?` — the position after what a matcher takes.
-/

namespace RuleRegex

def isAsciiLower (c : Nat) : Bool := 97 ≤ c && c ≤ 122

def isAsciiUpper (c : Nat) : Bool := 65 ≤ c && c ≤ 90

def isAsciiDigit (c : Nat) : Bool := 48 ≤ c && c ≤ 57

def isAsciiAlnum (c : Nat) : Bool := isAsciiLower c || isAsciiUpper c || isAsciiDigit c

def isAsciiSpace (c : Nat) : Bool := (9 ≤ c && c ≤ 13) || c == 32

def isAsciiGraph (c : Nat) : Bool := 33 ≤ c && c ≤ 126

namespace NamedClass

/-- Whether a character is in a named class. Without regard to case, the classes of a case are those of
letters. -/
def holds (caseless : Bool) : NamedClass → Nat → Bool
  | alpha, c => isAsciiLower c || isAsciiUpper c
  | lower, c => isAsciiLower c || (caseless && isAsciiUpper c)
  | upper, c => isAsciiUpper c || (caseless && isAsciiLower c)
  | alnum, c => isAsciiAlnum c
  | ascii, c => c < 128
  | blank, c => c == 9 || c == 32
  | cntrl, c => c < 32 || c == 127
  | digit, c => isAsciiDigit c
  | graph, c => isAsciiGraph c
  | print, c => isAsciiGraph c || c == 32
  | punct, c => isAsciiGraph c && !isAsciiAlnum c
  | space, c => isAsciiSpace c
  | word, c => isAsciiAlnum c || c == 95
  | xdigit, c => isAsciiDigit c || (97 ≤ c && c ≤ 102) || (65 ≤ c && c ≤ 70)

end NamedClass

def CharKind.holds : CharKind → Nat → Bool
  | digit, c => isAsciiDigit c
  | space, c => isAsciiSpace c
  | word, c => isAsciiAlnum c || c == 95
  | horizontal, c => Unicode.isHorizontalBlank c
  | vertical, c => Unicode.isVerticalBlank c

def SetItem.holds (caseless : Bool) : SetItem → Nat → Bool
  | range first last, c =>
    (first ≤ c && c ≤ last) ||
      (caseless && (Unicode.otherCases c).any fun d => first ≤ d && d ≤ last)
  | named n negated, c => n.holds caseless c != negated
  | kind k negated, c => k.holds c != negated
  | property p negated, c => p.holds c != negated

def CharSet.contains (s : CharSet) (c : Nat) : Bool :=
  (s.items.any fun i => i.holds s.caseless c) != s.negated

/-- An item for a single character made ready for matching. -/
inductive Matcher where
  | char (c : Nat)
  | oneOf (cs : List Nat) (negated : Bool)
  | inLine
  | any
  | byte
  | kind (k : CharKind) (negated : Bool)
  | property (p : Unicode.Property) (negated : Bool)
  /-- A bracketed class with what it says of the first 256 characters. -/
  | set (s : CharSet) (table : Array Bool)
  | newline
  | cluster
  deriving Repr

namespace Matcher

/-- The matcher of a character or its negation, perhaps without regard to case. -/
def ofChar (c : Nat) (caseless negated : Bool) : Matcher :=
  if caseless then oneOf (c :: Unicode.otherCases c) negated
  else if negated then oneOf [c] true
  else char c

def ofSingle : Single → Matcher
  | .char c caseless => ofChar c caseless false
  | .notChar c caseless => ofChar c caseless true
  | .inLine => inLine
  | .any => any
  | .byte => byte
  | .kind k negated => kind k negated
  | .property p negated => property p negated
  | .set s => set s ((List.range 256).map s.contains).toArray
  | .newline => newline
  | .cluster => cluster

/-- Whether a matcher takes a character that is known, where it takes one character. -/
def holds (m : Matcher) (c : Nat) : Bool :=
  match m with
  | char d => c == d
  | oneOf cs negated => cs.contains c != negated
  | kind k negated => k.holds c != negated
  | property p negated => p.holds c != negated
  | set s table => if h : c < table.size then table[c] else s.contains c
  | inLine | any | byte | newline | cluster => true

def newlineLength? (onlyCrlf : Bool) (s : Subject) (i : Nat) : Option Nat :=
  s.lineBreak? (if onlyCrlf then .anyCrlf else .any) i

def next? (settings : Settings) (s : Subject) (m : Matcher) (i : Nat) : Option Nat :=
  match m with
  | any => (s.char? i).map (·.2)
  | inLine =>
    if (s.lineBreak? settings.lineBreak i).isSome then none else (s.char? i).map (·.2)
  | byte => if i < s.size then some (i + 1) else none
  | newline => (newlineLength? settings.onlyCrlf s i).map (i + ·)
  | cluster => s.clusterEnd? i
  | char c =>
    match s.char? i with
    | some (d, next) =>
      -- A continuing byte alone is no character that is written with two bytes.
      if c == d && (c < 0x80 || i + 1 < next) then some next else none
    | none => none
  | m =>
    match s.char? i with
    | some (c, next) => if m.holds c then some next else none
    | none => none

/-- The positions after what a matcher takes one to so many times from a position on, last first, put
before those given. -/
def positions (settings : Settings) (s : Subject) (m : Matcher) : Nat → Nat → List Nat → List Nat
  | 0, _, found => found
  | most + 1, i, found =>
    match m.next? settings s i with
    | some next => m.positions settings s most next (next :: found)
    | none => found

def repeated? (settings : Settings) (s : Subject) (m : Matcher) : Nat → Nat → Option Nat
  | 0, i => some i
  | count + 1, i =>
    match m.next? settings s i with
    | some next => m.repeated? settings s count next
    | none => none

end Matcher

end RuleRegex
