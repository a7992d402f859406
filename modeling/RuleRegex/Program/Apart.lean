import RuleRegex.Program.Listed

/-!
# Items that are apart

Two items are apart if nothing can be taken by both. This is found out for the kinds of items that stand
beside each other most often.

## Main definitions

* `Matcher.avoids` — whether an item surely does not take a character.
* `Matcher.isApart` — whether items are found to be apart.
* `Matcher.isApartFromEnd` — whether an item does not take what can stand after an end.
-/

namespace RuleRegex

namespace Matcher

def listed? : Matcher → Option (List Nat)
  | char c => some [c]
  | oneOf cs false => some cs
  | _ => none

def avoids (m : Matcher) (c : Nat) : Bool :=
  match m with
  | inLine | any | byte | cluster | property .any _ => false
  | newline => !Unicode.isVerticalBlank c
  | m => !m.holds c

/-- What a matcher says of the first 256 characters, if it is a class without properties or a simple kind of
ASCII characters. -/
def tableOf? : Matcher → Option (Nat → Bool)
  | set s table => if s.hasProperty then none else some fun c => table.getD c false
  | kind .digit negated => some fun c => CharKind.digit.holds c != negated
  | kind .space negated => some fun c => CharKind.space.holds c != negated
  | kind .word negated => some fun c => CharKind.word.holds c != negated
  | _ => none

def isNarrow : Matcher → Bool
  | set s _ => s.isNarrow
  | _ => false

def tablesApart (m n : Matcher) : Bool :=
  match m.tableOf?, n.tableOf? with
  | some f, some g => (List.range 256).all fun c => !(f c && g c)
  | _, _ => false

def kindsApart : CharKind × Bool → CharKind × Bool → Bool
  | (.digit, true), (.digit, false) => true
  | (.digit, false), (k, negated) =>
    match k with
    | .digit | .word => negated
    | _ => !negated
  | (.space, true), (.space, false) => true
  | (.space, false), (k, negated) =>
    match k with
    | .digit | .word => !negated
    | .space => negated
    | _ => false
  | (.word, true), (k, negated) => !negated && (k = .digit || k = .word)
  | (.word, false), (k, negated) =>
    match k with
    | .word => negated
    | .digit => false
    | _ => !negated
  | (.horizontal, true), (.horizontal, false) => true
  | (.horizontal, false), (k, negated) =>
    match k with
    | .digit | .word | .vertical => !negated
    | .horizontal => negated
    | .space => false
  | (.vertical, true), (.vertical, false) => true
  | (.vertical, false), (k, negated) =>
    match k with
    | .digit | .word | .horizontal => !negated
    | .vertical => negated
    | .space => false
  | _, _ => false

def propertiesApart (p q : Unicode.Property) (sameSign : Bool) : Bool :=
  match p, q with
  | .group a, .group b => sameSign != (a == b)
  | .category a, .category b => sameSign != (a == b)
  | .script a, .script b => sameSign != (a == b)
  | .group a, .category b => sameSign && b.toList.head? != some a
  | .category a, .group b => sameSign && a.toList.head? != some b
  | _, _ => false

/-- Whether nothing can be taken by both items, as far as this is found out. -/
def isApart (m n : Matcher) : Bool :=
  match m.listed?, n.listed? with
  | some cs, _ => cs.all n.avoids
  | none, some cs => cs.all m.avoids
  | none, none =>
    if m.isNarrow || n.isNarrow then tablesApart m n
    else match m, n with
      | property p negated, property q negated' =>
        !(negated && negated') && propertiesApart p q (negated == negated')
      | kind k negated, kind k' negated' => kindsApart (k, negated) (k', negated')
      | kind k false, newline => k = .digit || k = .word || k = .horizontal
      | newline, kind k negated =>
        match k with
        | .digit | .word | .horizontal => !negated
        | .vertical => negated
        | .space => false
      | _, _ => false

/-- Whether an item does not take anything that can stand at an end which an anchor asks for. -/
def isApartFromEnd (m : Matcher) (a : Anchor) : Bool :=
  match m.listed? with
  | some cs =>
    match a with
    | .absoluteEnd => true
    | .finish | .finishLine => cs.all fun c => !Unicode.isVerticalBlank c
    | _ => false
  | none =>
    match m, a with
    | .set _ _, _ => false
    | .oneOf _ _, _ => false
    | _, .absoluteEnd => true
    | .kind k negated, .finish | .kind k negated, .finishLine | .kind k negated, .lineEnd =>
      match k with
      | .digit | .word => !negated
      | .space => negated
      | _ => false
    | _, _ => false

end Matcher

end RuleRegex
