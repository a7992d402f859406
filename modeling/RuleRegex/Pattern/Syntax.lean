import RuleRegex.Unicode.Property

/-!
# Patterns

A pattern is a tree. What options say of an item is part of the item, so that the tree has no options.

## Main definitions

* `Count` — how often an item is repeated.
* `CharSet` — what a bracketed class says of a character.
* `Single` — an item that stands for one character, or for a line break or a grapheme cluster.
* `Node` — an item of a pattern.
* `Pattern` — the branches of a pattern and what is set for all of it.
-/

namespace RuleRegex

open Unicode (Property)

/-- In which order the numbers of repetitions are tried. -/
inductive Greed where
  | greedy
  | lazy
  /-- The most, and no other number afterwards. -/
  | possessive
  deriving DecidableEq, Repr

structure Count where
  least : Nat := 1
  most : Option Nat := some 1
  greed : Greed := .greedy
  deriving DecidableEq, Repr, Inhabited

/-- Whether an item is there once, in whatever manner it would be repeated. -/
def Count.isOne (c : Count) : Bool := c.least == 1 && c.most == some 1

inductive CharKind where
  | digit
  | space
  | word
  | horizontal
  | vertical
  deriving DecidableEq, Repr

inductive NamedClass where
  | alpha
  | lower
  | upper
  | alnum
  | ascii
  | blank
  | cntrl
  | digit
  | graph
  | print
  | punct
  | space
  | word
  | xdigit
  deriving DecidableEq, Repr

/-- A part of a bracketed class. -/
inductive SetItem where
  | range (first last : Nat)
  | named (c : NamedClass) (negated : Bool)
  | kind (k : CharKind) (negated : Bool)
  | property (p : Property) (negated : Bool)
  deriving DecidableEq, Repr

structure CharSet where
  items : List SetItem
  negated : Bool
  caseless : Bool
  deriving DecidableEq, Repr

/-- An item that stands for one character, or for a line break or a grapheme cluster. -/
inductive Single where
  | char (c : Nat) (caseless : Bool)
  | notChar (c : Nat) (caseless : Bool)
  /-- Anything but a line break. -/
  | inLine
  | any
  /-- One byte. -/
  | byte
  | kind (k : CharKind) (negated : Bool)
  | property (p : Property) (negated : Bool)
  | set (s : CharSet)
  | newline
  | cluster
  deriving DecidableEq, Repr

/-- A condition on a position alone. -/
inductive Anchor where
  /-- The start of the subject. -/
  | start
  /-- The start of the subject, said by an escape. -/
  | absoluteStart
  /-- Where matching began. -/
  | searchStart
  /-- The start of a line. -/
  | lineStart
  /-- The end of the subject, or before a line break there. -/
  | finish
  /-- The same, said by an escape. -/
  | finishLine
  | absoluteEnd
  | lineEnd
  | wordBoundary
  | notWordBoundary
  /-- No condition: the reported match begins here. -/
  | keepOut
  deriving DecidableEq, Repr

inductive Reference where
  | number (n : Nat)
  | name (s : List Nat)
  deriving DecidableEq, Repr

inductive Direction where
  | ahead
  | behind
  deriving DecidableEq, Repr

inductive GroupKind where
  | plain
  | capture (n : Nat)
  | atomic
  | scriptRun
  | look (d : Direction) (negated : Bool)
  /-- A lookaround that can be re-entered. -/
  | lookAgain (d : Direction)
  deriving DecidableEq, Repr

/-- What a conditional group depends on. A lookaround keeps the position at which a fault of it is
reported. -/
inductive Condition where
  | group (r : Reference)
  | anyRecursion
  | recursion (r : Reference)
  /-- A name that may be of a group, or that says which recursion. -/
  | nameOrRecursion (s : List Nat)
  | define
  | constant (b : Bool)
  | look (d : Direction) (negated : Bool) (position : Nat)
  deriving DecidableEq, Repr

inductive Verb where
  | mark (name : List Nat)
  | fail
  | commit (name : Option (List Nat))
  | prune (name : Option (List Nat))
  | skip
  | skipTo (name : List Nat)
  | onward (name : Option (List Nat))
  deriving DecidableEq, Repr

/-- An item of a pattern. References and groups keep the position at which a fault of theirs is
reported. -/
inductive Node where
  | single (s : Single) (count : Count)
  | anchor (a : Anchor)
  | backreference (r : Reference) (caseless : Bool) (position : Nat) (count : Count)
  | recursion (r : Reference) (position : Nat) (count : Count)
  | group (kind : GroupKind) (position : Nat) (branches : List (List Node)) (count : Count)
  /-- A conditional group; `test` has the branches of a condition that is a lookaround. -/
  | conditional (c : Condition) (position : Nat) (test : List (List Node))
      (branches : List (List Node)) (count : Count)
  | verb (v : Verb)
  | accept
  /-- A point at which nothing happens. -/
  | callout
  deriving Repr, Inhabited

abbrev Branch := List Node

inductive LineBreak where
  | cr
  | lf
  | crlf
  | any
  | anyCrlf
  | nul
  deriving DecidableEq, Repr

structure Settings where
  lineBreak : LineBreak := .lf
  /-- Whether the escape for line breaks takes carriage returns and line feeds only. -/
  onlyCrlf : Bool := false
  /-- Whether kinds of characters and named classes are those of Unicode. -/
  unicodeClasses : Bool := false
  refuseEmpty : Bool := false
  refuseEmptyAtStart : Bool := false
  noPossessification : Bool := false
  noDotStarAnchor : Bool := false
  noStartHints : Bool := false
  matchLimit : Option Nat := none
  depthLimit : Option Nat := none
  heapLimit : Option Nat := none
  deriving DecidableEq, Repr, Inhabited

structure Pattern where
  branches : List Branch
  settings : Settings
  groupCount : Nat
  /-- The names of groups with their numbers, in order. -/
  names : List (List Nat × Nat)
  /-- Whether groups can share a number. -/
  sharedNumbers : Bool
  deriving Inhabited

def Pattern.groupsNamed (p : Pattern) (name : List Nat) : List Nat :=
  p.names.filterMap fun (n, i) => if n = name then some i else none

end RuleRegex
