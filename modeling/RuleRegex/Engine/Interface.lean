import RuleRegex.Source.Basic

/-!
# Engines

An engine compiles the bytes of a pattern and matches subjects with what it compiled. Everything that
is said of compiling, matching and caching sources holds of any engine.

## Main definitions

* `Limits` — what matching may use up.
* `Outcome` — what the engine says of a match.
* `Engine` — compiling and matching.
-/

namespace RuleRegex

/-- What matching may use up; a limit that is not set is the engine's own. -/
structure Limits where
  matchLimit : Option Nat := none
  depthLimit : Option Nat := none
  heapLimit : Option Nat := none
  deriving DecidableEq, Repr, Inhabited

/-- What the engine says of a match: a number that is negative if there is none, and pairs of offsets,
the whole match first. -/
structure Outcome where
  code : Int
  pairs : List (Option Nat × Option Nat)
  deriving DecidableEq, Repr

def noMatchCode : Int := -1

structure Engine (Code : Type) where
  /-- Whether the library at a path can be loaded; without a path it is searched for. -/
  loads : Option String → Bool
  /-- The names that are tried for a library that cannot be loaded, each with the error of the system. -/
  loadErrors : Option String → List (String × String) := fun _ => []
  /-- What a pattern compiles to, with or without regard to case, or the number of what is wrong and the
  position in the pattern. -/
  compile : Bytes → Bool → Except (Int × Nat) Code
  /-- Whether compiled code can be translated just in time; where it cannot, it is interpreted. -/
  translates : Code → Bool := fun _ => true
  /-- How many capture groups compiled code has. -/
  captureCount : Code → Nat
  /-- Matches a subject, perhaps with limits. -/
  run : Code → Option Limits → Bytes → Outcome
  /-- The wording of a number. -/
  message : Int → String

end RuleRegex
