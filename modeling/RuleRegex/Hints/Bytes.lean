import RuleRegex.Pattern.Visit
import RuleRegex.Text.Utf8
import RuleRegex.Unicode.Folding

/-!
# First and required bytes

A pattern is gone through once to find the byte that every match begins with, and the last byte that has
to be in every match after it.

## Main definitions

* `Known` — what is known of such a byte.
* `Ends` — both bytes.
* `Pattern.ends` — what is known of them in a pattern.
-/

namespace RuleRegex

inductive Known where
  /-- Nothing so far. -/
  | undecided
  /-- There is no such byte. -/
  | absent
  /-- A byte, whether case counts, and whether what stands before it varies in length. -/
  | byte (b : Nat) (caseless varies : Bool)
  deriving DecidableEq, Repr

namespace Known

def isByte : Known → Bool
  | byte _ _ _ => true
  | _ => false

/-- The same byte after something that may vary in length. -/
def after (varies : Bool) : Known → Known
  | byte b caseless v => byte b caseless (v || varies)
  | k => k

/-- The byte `k` if it is known and `a` is not. -/
def orByte (a k : Known) : Known := if k.isByte && !a.isByte then k else a

/-- What is known of a required byte that has to be in each of two branches. -/
def common (a b : Known) : Known :=
  match a, b with
  | undecided, undecided => undecided
  | byte x c v, byte y d w => if x = y ∧ c = d then byte x c (v || w) else absent
  | _, _ => absent

end Known

/-- What is known of the first byte of every match, and of the last one that is in every match. -/
structure Ends where
  first : Known := .undecided
  required : Known := .undecided
  deriving DecidableEq, Repr, Inhabited

namespace Ends

/-- Nothing comes before what follows. -/
def closed (e : Ends) : Ends :=
  { e with first := if e.first = .undecided then .absent else e.first }

/-- What is known of two branches. A first byte that is not common to them is still required. -/
def merge (a b : Ends) : Ends :=
  let same := a.first = b.first
  let required := if same then a.required else a.required.orByte a.first
  let first := if same then a.first else .absent
  let other := if first.isByte then b.required else b.required.orByte b.first
  ⟨first, required.common other⟩

end Ends

structure EndsTrace where
  now : Ends := {}
  /-- What is known if the last item is not there. -/
  without : Ends := {}
  /-- Whether the first byte is that of the last item, which is a group. -/
  groupFirst : Bool := false
  /-- Whether anything so far varies in length. -/
  varies : Bool := false
  deriving DecidableEq, Repr, Inhabited

namespace EndsTrace

/-- After an item that says nothing of bytes. -/
def afterAnything (s : EndsTrace) : EndsTrace := { s with now := s.now.closed, without := s.now.closed }

def afterNothing (s : EndsTrace) : EndsTrace := { s with without := s.now }

/-- After an item that rules out a first byte even if it is not there. -/
def afterBlock (s : EndsTrace) : EndsTrace :=
  if s.now.first = .undecided then
    { s with
      now := { s.now with first := .absent }
      without := { s.without with first := .absent } }
  else s

/-- Whether more than two characters are the same as a character regardless of case. -/
def hasManyCases (c : Nat) : Bool := 2 ≤ (Unicode.otherCases c).length

def afterCharacter (s : EndsTrace) (c : Nat) (caseless : Bool) : EndsTrace :=
  if caseless && hasManyCases c then s.afterBlock
  else
    let short := c < 0x80
    if s.now.first = .undecided then
      let without : Ends := { first := .absent, required := s.now.required }
      if short || !caseless then
        let first := Known.byte (Utf8.firstByte c) caseless false
        let required := if short then s.now.required else .byte (Utf8.lastByte c) false s.varies
        { s with now := { first, required }, without }
      else { s with now := { first := .absent, required := .absent }, without }
    else
      let required :=
        if short || !caseless then .byte (Utf8.lastByte c) caseless s.varies else s.now.required
      { s with now := { s.now with required }, without := s.now }

def afterSingle (s : EndsTrace) : Single → EndsTrace
  | .char c caseless => s.afterCharacter c caseless
  | _ => s.afterAnything

def afterAnchor (s : EndsTrace) : Anchor → EndsTrace
  | .lineStart => s.afterBlock
  | .start | .finish | .lineEnd => s
  | _ => s.afterNothing

def afterReference (s : EndsTrace) (several : Bool) : EndsTrace :=
  if several then { s with now := s.now.closed } else s.afterBlock

def afterCall (s : EndsTrace) : EndsTrace :=
  let now := s.now.closed
  { s with now, without := { s.without with first := now.first }, groupFirst := false }

def afterGroup (s : EndsTrace) (e : Ends) (varies : Bool) : EndsTrace :=
  let takes := s.now.first = .undecided && e.first ≠ .undecided
  let required :=
    if takes || e.required.isByte || !e.first.isByte then e.required else e.first.after s.varies
  { now :=
      { first := if takes then (if e.first.isByte then e.first else .absent) else s.now.first
        required := if required.isByte then required else s.now.required }
    without := if takes then { s.now with first := .absent } else s.now
    groupFirst := takes && e.first.isByte
    varies }

/-- After a lookaround. What has to be ahead is required. -/
def afterLook (s : EndsTrace) (ahead : Bool) (e : Ends) (varies : Bool) : EndsTrace :=
  let required := if ahead && e.required.isByte && e.first.isByte then e.required else s.now.required
  { now := { s.now with required }, without := s.now, groupFirst := false, varies }

def repeated (s : EndsTrace) (c : Count) : EndsTrace :=
  { s with
    now := if c.least = 0 then s.without else s.now
    varies := s.varies || c.most != some c.least }

def repeatedCharacter (s : EndsTrace) (i : Single) (c : Count) : EndsTrace :=
  let now := if c.least = 0 then s.without else s.now
  let now := match i with
    | .char code caseless =>
      if 1 < c.least && code < 0x80 && !(caseless && hasManyCases code) then
        { now with required := .byte code caseless s.varies }
      else now
    | _ => now
  { s with now, varies := s.varies || c.most != some c.least }

def repeatedGroup (s : EndsTrace) (c : Count) : EndsTrace :=
  let s' := s.repeated c
  if 1 < c.least && s'.groupFirst && !s'.now.required.isByte then
    { s' with now := { s'.now with required := s'.now.first } }
  else s'

end EndsTrace

namespace Ends

mutual

def afterNode (p : Pattern) (s : EndsTrace) : Node → EndsTrace
  | .single i c => (s.afterSingle i).repeatedCharacter i c
  | .anchor a => s.afterAnchor a
  | .backreference r _ _ c =>
    let several := match r with
      | .name n => 1 < (p.groupsNamed n).length
      | .number _ => false
    (s.afterReference several).repeated c
  | .recursion _ _ c => s.afterCall.repeated c
  | .group kind _ branches c =>
    let (e, varies) := ofBranches p { varies := s.varies } none branches
    match kind with
    | .look d negated =>
      if negated && d = .ahead && branches.all (·.isEmpty) && c.isOne then s
      else (s.afterLook (d = .ahead && !negated) e varies).repeated c
    | .lookAgain _ => (s.afterLook false e varies).repeated c
    | _ => (s.afterGroup e varies).repeatedGroup c
  | .conditional d _ test branches c =>
    let start : EndsTrace := { varies := s.varies }
    let start := match d with
      | .look d negated _ =>
        let (e, varies) := ofBranches p start none test
        start.afterLook (d = .ahead && !negated) e varies
      | _ => start
    let (e, varies) := ofBranches p start none branches
    match d with
    | .define => { s with varies }.repeated c
    | _ =>
      let e := if branches.length = 1 then ⟨.absent, .absent⟩ else e
      (s.afterGroup e varies).repeatedGroup c
  | .accept => { s with now := s.now.closed }
  | .verb _ | .callout => s

def afterBranch (p : Pattern) (s : EndsTrace) : List Node → EndsTrace
  | [] => s
  | n :: ns => afterBranch p (afterNode p s n) ns

/-- What is known of branches, of which the first goes on from `s`, together with those before, and
whether anything varies in length. -/
def ofBranches (p : Pattern) (s : EndsTrace) (before : Option Ends) : List (List Node) → Ends × Bool
  | [] => (before.getD {}, s.varies)
  | b :: bs =>
    let t := afterBranch p s b
    ofBranches p { varies := t.varies } (some (before.elim t.now (·.merge t.now))) bs

end

end Ends

def Pattern.ends (p : Pattern) : Ends := (Ends.ofBranches p {} none p.branches).1

end RuleRegex
