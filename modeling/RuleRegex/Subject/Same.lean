import RuleRegex.Subject.Basic
import RuleRegex.Unicode.Folding

/-!
# Repeated text

## Main definitions

* `Subject.afterSame?` — the position after a repetition of a part of a subject.
-/

namespace RuleRegex

namespace Subject

def afterSameBytes? (s : Subject) : Nat → Nat → Nat → Option Nat
  | 0, _, i => some i
  | count + 1, from_, i =>
    if i < s.size ∧ s.byteAt from_ = s.byteAt i then s.afterSameBytes? count (from_ + 1) (i + 1)
    else none

/-- The position after the characters of a part of a subject, without regard to case. The fuel is the
number of bytes. -/
def afterSameCharacters? (s : Subject) (stop : Nat) : Nat → Nat → Nat → Option Nat
  | 0, _, i => some i
  | fuel + 1, from_, i =>
    if stop ≤ from_ then some i
    else
      match s.char? from_, s.char? i with
      | some (c, after), some (d, next) =>
        if c = d ∨ Unicode.fold c = Unicode.fold d then s.afterSameCharacters? stop fuel after next
        else none
      | _, _ => none

/-- The position after a repetition, at `i`, of the part of a subject between two positions. -/
def afterSame? (s : Subject) (caseless : Bool) (start stop i : Nat) : Option Nat :=
  if caseless then s.afterSameCharacters? stop (stop - start + 1) start i
  else s.afterSameBytes? (stop - start) start i

end Subject

end RuleRegex
