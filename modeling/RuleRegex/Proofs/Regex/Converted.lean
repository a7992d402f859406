import RuleRegex.Proofs.Escape.Converted
import RuleRegex.Proofs.Regex.Limits

/-!
# Compiling converted sources

The engine is given the converted pattern of a source. To convert the pattern beforehand makes no
difference that a caller can see, whatever the engine does, except that a rejection is placed in the
pattern as the caller wrote it.

## Main definitions

* `Source.converted` — the source with its pattern converted beforehand.
* `Regex.SameOutcome` — two attempts to compile that a caller cannot tell apart, up to the place of a
  rejection.
-/

namespace RuleRegex

/-- The source with its pattern converted beforehand. -/
def Source.converted (s : Source) : Source := { s with pattern := convert s.pattern }

namespace Regex

variable {Code : Type}

/-- Two regexes that a caller cannot tell apart by what they match. -/
structure SameMatches (engine : Engine Code) (r r' : Regex Code) : Prop where
  captureCount : r.captureCount = r'.captureCount
  spans : ∀ subject, r.spans engine subject = r'.spans engine subject
  matched : ∀ subject, r.match engine subject = r'.match engine subject

/-- Two attempts to compile that a caller cannot tell apart. The position of the first rejection comes
from that of the second by `carry`. -/
inductive SameOutcome (engine : Engine Code) (carry : Int → Int) :
    Except CompileError (Regex Code) → Except CompileError (Regex Code) → Prop where
  | compiled {r r' : Regex Code} : SameMatches engine r r' → SameOutcome engine carry (.ok r) (.ok r')
  | libraryMissing : SameOutcome engine carry (.error .libraryMissing) (.error .libraryMissing)
  | badLimit (name : String) (value : Int) :
    SameOutcome engine carry (.error (.badLimit name value)) (.error (.badLimit name value))
  | rejected {e e' : Rejection} {position : Int} :
    e.code = e'.code → e.message = e'.message →
      e'.position = some position → e.position = some (carry position) →
        SameOutcome engine carry (.error (.rejected e)) (.error (.rejected e'))

/-- Matching looks at the code, the limits and the number of groups only. -/
theorem sameMatches_of_eq {engine : Engine Code} {r r' : Regex Code} (code : r.code = r'.code)
    (limits : r.limits = r'.limits) (count : r.captureCount = r'.captureCount) :
    SameMatches engine r r' := by
  have hs : ∀ subject, r.spans engine subject = r'.spans engine subject := by
    intro subject
    simp only [spans, code, limits, count]
  refine ⟨count, hs, ?_⟩
  intro subject
  simp only [Regex.match, hs]

/-- What goes wrong with limits does not depend on the source. -/
theorem engineLimits_error {c : Config} {e : CompileError} (h : engineLimits c = .error e) :
    ∃ name value, e = .badLimit name value := by
  obtain ⟨name, value, he, -⟩ := isFirst_of_engineLimits h
  exact ⟨name, value, he⟩

/-- **Converting a pattern before it is compiled is invisible.** -/
theorem compile_converted (engine : Engine Code) (c : Config) (s : Source) :
    SameOutcome engine (originalPosition s.pattern) (compile engine c s)
      (compile engine c s.converted) := by
  have hp : convert s.converted.pattern = convert s.pattern := convert_convert s.pattern
  have hc : s.converted.caseSensitive = s.caseSensitive := rfl
  simp only [compile, hp, hc]
  split
  · cases engine.compile (convert s.pattern) (!s.caseSensitive) with
    | error e =>
      obtain ⟨code, position⟩ := e
      refine .rejected rfl rfl rfl ?_
      simp only [rejection, Source.converted, originalPosition_convert]
    | ok compiled =>
      cases hl : engineLimits c with
      | error e =>
        obtain ⟨name, value, rfl⟩ := engineLimits_error hl
        exact .badLimit name value
      | ok limits => exact .compiled (sameMatches_of_eq rfl rfl rfl)
  · exact .libraryMissing

end Regex

end RuleRegex
