import RuleRegex.Proofs.Regex.Converted

/-!
# Positions in converted patterns

Positions go back to the pattern in order: what is converted later stands later in the pattern. The
positions of a converted pattern go to positions of the pattern, its end to the end, and what lies
beyond the end keeps its distance from it. So a rejection is placed within the pattern as it was
written if the engine placed it within the pattern that it was given.
-/

namespace RuleRegex

variable {α : Type} [Alphabet α] {s : Segment α} {segments l r : List (Segment α)} {position : Int}

/-! ## Along the segments -/

theorem originIn_cons_of_lt (h : position < s.output.length) :
    originIn (s :: segments) position = if s.isEscape then 0 else position := by
  rw [originIn, if_pos h]

theorem originIn_cons_of_le (h : s.output.length ≤ position) :
    originIn (s :: segments) position =
      s.source.length + originIn segments (position - s.output.length) := by
  rw [originIn, if_neg (Int.not_lt.2 h)]

theorem length_outputs_cons :
    (outputs (s :: segments)).length = s.output.length + (outputs segments).length := by
  simp [outputs]

/-- The start of a pattern is the start of what it is converted to. -/
theorem originIn_zero (segments : List (Segment α)) : originIn segments 0 = 0 := by
  induction segments with
  | nil => rfl
  | cons s segments ih =>
    cases s with
    | verbatim text =>
      cases text with
      | nil => simpa [originIn, Segment.output, Segment.source] using ih
      | cons a text => simp [originIn, Segment.output, Segment.isEscape]
    | escape ds =>
      have hpos : 0 < (Segment.escape ds : Segment α).output.length := by simp [Segment.output]
      rw [originIn_cons_of_lt (by omega)]
      rfl

/-- A position behind some segments goes back to one behind their sources. -/
theorem originIn_append (h : (outputs l).length ≤ position) :
    originIn (l ++ r) position =
      (l.flatMap Segment.source).length + originIn r (position - (outputs l).length) := by
  induction l generalizing position with
  | nil => simp [outputs]
  | cons s l ih =>
    rw [length_outputs_cons] at h
    rw [List.cons_append, originIn_cons_of_le (by omega), ih (by omega), length_outputs_cons,
      List.flatMap_cons, List.length_append]
    grind

theorem originIn_beyond (segments : List (Segment α)) (k : Nat) :
    originIn segments ((outputs segments).length + k) =
      (segments.flatMap Segment.source).length + k := by
  have hle : ((outputs segments).length : Int) ≤ (outputs segments).length + k := by omega
  have h := originIn_append (r := []) hle
  rw [List.append_nil] at h
  rw [h, originIn]
  omega

theorem originIn_nonneg (h : 0 ≤ position) : 0 ≤ originIn segments position := by
  induction segments generalizing position with
  | nil => exact h
  | cons s segments ih =>
    by_cases hlt : position < s.output.length
    · rw [originIn_cons_of_lt hlt]
      grind
    · have hrest : 0 ≤ originIn segments (position - s.output.length) := ih (by omega)
      rw [originIn_cons_of_le (Int.not_lt.1 hlt)]
      omega

/-- **Later positions do not go back to earlier ones.** An escape takes all positions of its output to
where it begins, so the order need not be strict. -/
theorem originIn_le_originIn {i j : Int} (h : i ≤ j) : originIn segments i ≤ originIn segments j := by
  induction segments generalizing i j with
  | nil => exact h
  | cons s segments ih =>
    by_cases hi : i < s.output.length
    · rw [originIn_cons_of_lt hi]
      by_cases hj : j < s.output.length
      · rw [originIn_cons_of_lt hj]
        grind
      · have hrest : 0 ≤ originIn segments (j - s.output.length) := originIn_nonneg (by omega)
        rw [originIn_cons_of_le (Int.not_lt.1 hj)]
        cases s with
        | verbatim text =>
          rw [Segment.output] at hi
          simp only [Segment.isEscape, Segment.source, Bool.false_eq_true, if_false]
          omega
        | escape ds =>
          simp only [Segment.isEscape, if_true]
          omega
    · rw [originIn_cons_of_le (Int.not_lt.1 hi), originIn_cons_of_le (by omega)]
      have hrest := ih (i := i - s.output.length) (j := j - s.output.length) (by omega)
      omega

theorem length_source_pos (h : s.isEscape = true) : 0 < s.source.length := by
  cases s with
  | verbatim text => cases h
  | escape ds => simp [Segment.source]

/-- A position before the end of what segments are written as goes back before the end of their
sources. -/
theorem originIn_lt (h : position < (outputs segments).length) :
    originIn segments position < (segments.flatMap Segment.source).length := by
  induction segments generalizing position with
  | nil => simpa [outputs, originIn] using h
  | cons s segments ih =>
    rw [length_outputs_cons] at h
    rw [List.flatMap_cons, List.length_append]
    by_cases hlt : position < s.output.length
    · rw [originIn_cons_of_lt hlt]
      cases hs : s.isEscape with
      | true =>
        have hpos := length_source_pos hs
        simp only [if_true]
        omega
      | false =>
        rw [Segment.output_eq_source hs] at hlt
        simp only [Bool.false_eq_true, if_false]
        omega
    · rw [originIn_cons_of_le (Int.not_lt.1 hlt)]
      have hrest : originIn segments (position - s.output.length) <
          (segments.flatMap Segment.source).length := ih (by omega)
      omega

/-! ## In a pattern -/

variable {p : List α}

/-- Positions go back in order. -/
theorem originalPosition_le_originalPosition {i j : Int} (h : i ≤ j) :
    originalPosition p i ≤ originalPosition p j := originIn_le_originIn h

/-- Beyond the end of the converted pattern the distance from the end is kept. -/
theorem originalPosition_beyond (p : List α) (k : Nat) :
    originalPosition p ((convert p).length + k) = p.length + k := by
  have h := originIn_beyond (scan p) k
  rwa [flatMap_source_scan] at h

theorem originalPosition_nonneg (h : 0 ≤ position) : 0 ≤ originalPosition p position :=
  originIn_nonneg h

/-- A position inside the converted pattern goes back to one inside the pattern. -/
theorem originalPosition_lt (h : position < (convert p).length) :
    originalPosition p position < p.length := by
  have hlt : originIn (scan p) position < ((scan p).flatMap Segment.source).length := originIn_lt h
  rwa [flatMap_source_scan] at hlt

/-- The end of the converted pattern goes back to the end of the pattern. -/
theorem originalPosition_end (p : List α) : originalPosition p (convert p).length = p.length := by
  simpa using originalPosition_beyond p 0

theorem originalPosition_le (h : position ≤ (convert p).length) :
    originalPosition p position ≤ p.length :=
  originalPosition_end p ▸ originalPosition_le_originalPosition h

/-! ## Where a rejection is placed -/

/-- A rejection reports the position that the engine gave, gone back. -/
theorem Regex.exists_of_rejected {Code : Type} {engine : Engine Code} {c : Config} {source : Source}
    {r : Rejection} (h : compile engine c source = .error (.rejected r)) :
    ∃ code position, engine.compile (convert source.pattern) (!source.caseSensitive) =
      .error (code, position) ∧ r = rejection engine source code position := by
  unfold compile at h
  split at h
  · split at h
    · next code position hcompile =>
      cases h
      exact ⟨code, position, hcompile, rfl⟩
    · -- The engine takes the pattern, so only a limit can be wrong, and that is no rejection.
      split at h
      · next e hlimits =>
        obtain ⟨name, value, rfl⟩ := engineLimits_error hlimits
        cases h
      · cases h
  · cases h

/-- **Positions go back in order and stay within the pattern.** Of any two positions, before the start
and beyond the end included, the later goes back to the later; a position within the converted pattern
goes back to one within the pattern, and only the end to the end; beyond the end the distance from it is
kept. So a rejection that the engine places within the pattern it was given is reported within the
pattern as it was written. -/
theorem originalPosition_ordered_within (p : List α) :
    (∀ i j : Int, i ≤ j → originalPosition p i ≤ originalPosition p j) ∧
    (∀ position : Int, 0 ≤ position → position ≤ (convert p).length →
      0 ≤ originalPosition p position ∧ originalPosition p position ≤ p.length ∧
        (originalPosition p position = p.length ↔ position = (convert p).length)) ∧
    (∀ k : Nat, originalPosition p ((convert p).length + k) = p.length + k) ∧
    ∀ {Code : Type} (engine : Engine Code) (c : Config) (source : Source) (r : Rejection),
      Regex.compile engine c source = .error (.rejected r) →
        ∃ code position, engine.compile (convert source.pattern) (!source.caseSensitive) =
            .error (code, position) ∧
          (position ≤ (convert source.pattern).length →
            ∃ n : Nat, n ≤ source.pattern.length ∧ r.position = some (n : Int)) := by
  refine ⟨fun i j h => originalPosition_le_originalPosition h, ?_, originalPosition_beyond p, ?_⟩
  · intro position hpos hle
    refine ⟨originalPosition_nonneg hpos, originalPosition_le hle, fun hend => ?_, ?_⟩
    · by_contra hne
      have hlt : originalPosition p position < p.length := originalPosition_lt (by omega)
      omega
    · rintro rfl
      exact originalPosition_end p
  · intro Code engine c source r h
    obtain ⟨code, position, hcompile, rfl⟩ := Regex.exists_of_rejected h
    refine ⟨code, position, hcompile, fun hle => ?_⟩
    have hnonneg : 0 ≤ originalPosition source.pattern position :=
      originalPosition_nonneg (Int.natCast_nonneg position)
    have hwithin : originalPosition source.pattern position ≤ source.pattern.length :=
      originalPosition_le (by omega)
    obtain ⟨n, hn⟩ := Int.eq_ofNat_of_zero_le hnonneg
    exact ⟨n, by omega, congrArg some hn⟩

/-- All positions of the rewritten escape go back to its start, and those behind it move by one. -/
example : [0, 1, 6, 7, 8, 9].map (originalPosition "a\\o\x7b101\x7db".toList) = [0, 1, 1, 8, 9, 10] := by
  decide +kernel

end RuleRegex
