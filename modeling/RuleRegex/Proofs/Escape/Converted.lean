import RuleRegex.Escape.Convert
import RuleRegex.Proofs.Escape.Lookahead

/-!
# Converted patterns

A converted pattern holds no braced octal escape: the text before an escape begins with the same words
whether or not what follows it has been converted, and the hexadecimal escapes are cut into single
symbols. So a converted pattern is its own conversion, and positions in it stand for themselves. A
pattern that holds an escape is never its own conversion.

## Main definitions

* `run_induction`, `pattern_induction` — induction along a pattern.
-/

namespace RuleRegex

open Alphabet

variable {α : Type} [Alphabet α]

/-! ## The scan, segment by segment -/

theorem scan_cons (a : α) (x : List α) :
    scan (a :: x) = (nextSegment a x).1 :: scan (nextSegment a x).2 := by
  rw [scan]

theorem convert_cons (a : α) (x : List α) :
    convert (a :: x) = (nextSegment a x).1.output ++ convert (nextSegment a x).2 := by
  rw [convert, scan_cons]
  rfl

@[simp] theorem scan_nil : scan ([] : List α) = [] := by rw [scan]

@[simp] theorem convert_nil : convert ([] : List α) = [] := by rw [convert, scan_nil]; rfl

theorem scan_of_ne {a : α} (h : a ≠ ascii '\\') (x : List α) :
    scan (a :: x) = .verbatim [a] :: scan x := by
  rw [scan_cons, nextSegment_of_ne h]

theorem convert_of_ne {a : α} (h : a ≠ ascii '\\') (x : List α) :
    convert (a :: x) = a :: convert x := by
  rw [convert_cons, nextSegment_of_ne h]
  rfl

namespace Segment.Front

variable {u : Segment (Fin 128)} {x rest : List α}

theorem scan_eq (h : u.Front x rest) : scan (ascii '\\' :: x) = u.spell :: scan rest := by
  rw [scan_cons, h.1]

theorem convert_eq (h : u.Front x rest) :
    convert (ascii '\\' :: x) = Alphabet.spell u.output ++ convert rest := by
  rw [convert_cons, h.1, output_spell]

theorem source_eq (h : u.Front x rest) :
    ascii '\\' :: x = Alphabet.spell u.source ++ rest := by
  obtain ⟨_, w, hw, _, rfl⟩ := h
  rw [hw]
  rfl

theorem length_le (h : u.Front x rest) : rest.length ≤ x.length := by
  obtain ⟨_, w, _, _, rfl⟩ := h
  simp

/-- An output begins with a backslash, as its source does. -/
theorem exists_output (h : u.Front x rest) : ∃ v, u.output = ascii '\\' :: v := by
  cases u with
  | verbatim text =>
    obtain ⟨_, w, hw, _⟩ := h
    exact ⟨w, hw⟩
  | escape ds => exact ⟨_, rfl⟩

end Segment.Front

/-- Induction along a pattern with its wide symbols taken run by run: an ASCII symbol that is no backslash
stands by itself, and a backslash begins a segment with what is at the front of the text after it. -/
theorem run_induction {motive : List α → Prop} (nil : motive [])
    (wide : ∀ u x, (∀ a ∈ u, Wide a) → u ≠ [] → Narrow x → motive x → motive (u ++ x))
    (plain : ∀ i x, i ≠ ascii '\\' → motive x → motive (ofAscii i :: x))
    (backslash : ∀ u x rest, Segment.Front u x rest → motive rest → motive (ascii '\\' :: x))
    (p : List α) : motive p := by
  induction h : p.length using Nat.strongRecOn generalizing p with
  | ind n ih =>
    subst h
    obtain ⟨u, x, hu, hx, rfl⟩ := exists_wide_append p
    by_cases hne : u = []
    · subst hne
      rcases hx.eq_nil_or with rfl | ⟨i, y, rfl⟩
      · exact nil
      by_cases hi : i = ascii '\\'
      · subst hi
        obtain ⟨u, rest, hu⟩ := exists_front y
        have hlt : rest.length < y.length + 1 := Nat.lt_succ_of_le hu.length_le
        exact backslash u y rest hu (ih _ hlt rest rfl)
      · exact plain i y hi (ih _ (Nat.lt_succ_self _) y rfl)
    · have hpos := List.length_pos_iff.2 hne
      have hlt : x.length < (u ++ x).length := by
        rw [List.length_append]
        omega
      exact wide u x hu hne hx (ih _ hlt x rfl)

/-- Induction along the segments of a pattern: a symbol that is no backslash is one by itself. -/
theorem pattern_induction {motive : List α → Prop} (nil : motive [])
    (other : ∀ a x, a ≠ ascii '\\' → motive x → motive (a :: x))
    (backslash : ∀ u x rest, Segment.Front u x rest → motive rest → motive (ascii '\\' :: x))
    (p : List α) : motive p := by
  induction p using run_induction with
  | nil => exact nil
  | wide u x hu hne _ ih =>
    clear hne
    induction u with
    | nil => exact ih
    | cons a u ihu =>
      simp only [List.mem_cons, forall_eq_or_imp] at hu
      have ha : a ≠ ascii '\\' := fun h => not_wide_ofAscii _ (h ▸ hu.1)
      exact other a _ ha (ihu hu.2)
  | plain i x hi ih => exact other _ x (ne_of_word hi) ih
  | backslash u x rest hu ih => exact backslash u x rest hu ih

/-- The segments of a pattern are the pattern, cut into pieces. -/
theorem flatMap_source_scan (p : List α) : (scan p).flatMap Segment.source = p := by
  induction p using pattern_induction with
  | nil => simp
  | other a x ha ih =>
    rw [scan_of_ne ha, List.flatMap_cons, ih]
    rfl
  | backslash u x rest hu ih =>
    rw [hu.scan_eq, List.flatMap_cons, ih, Segment.source_spell, hu.source_eq]

/-- A text without backslashes is cut into its symbols. -/
theorem scan_append_plain {w : List α} (hw : ascii '\\' ∉ w) (x : List α) :
    scan (w ++ x) = w.map (fun a => .verbatim [a]) ++ scan x := by
  induction w with
  | nil => rfl
  | cons a w ih =>
    simp only [List.mem_cons, not_or] at hw
    rw [List.cons_append, scan_of_ne (Ne.symm hw.1), ih hw.2]
    rfl

theorem convert_append_plain {w : List α} (hw : ascii '\\' ∉ w) (x : List α) :
    convert (w ++ x) = w ++ convert x := by
  induction w with
  | nil => rfl
  | cons a w ih =>
    simp only [List.mem_cons, not_or] at hw
    rw [List.cons_append, convert_of_ne (Ne.symm hw.1), ih hw.2]
    rfl

/-! ## Conversion changes nothing twice -/

theorem backslash_notMem_spell {w : List (Fin 128)} (hw : ascii '\\' ∉ w) :
    ascii (α := α) '\\' ∉ spell w := mt mem_spell.1 hw

/-- What follows a backslash begins with the same words after it has been converted. -/
theorem beginAlike_convert (x : List α) : BeginAlike x (convert x) := by
  intro w hw
  constructor
  · rintro ⟨y, rfl⟩
    rw [convert_append_plain (backslash_notMem_spell hw)]
    exact List.prefix_append _ _
  · induction w generalizing x with
    | nil => simp
    | cons i w ih =>
      simp only [List.mem_cons, not_or] at hw
      intro h
      cases x with
      | nil => simp at h
      | cons a x =>
        by_cases ha : a = ascii '\\'
        · subst ha
          obtain ⟨u, rest, hu⟩ := exists_front x
          obtain ⟨v, hv⟩ := hu.exists_output
          rw [hu.convert_eq, hv, spell_cons, spell_cons, List.cons_append,
            List.cons_prefix_cons] at h
          exact absurd (ofAscii_injective h.1).symm hw.1
        · rw [convert_of_ne ha, spell_cons, List.cons_prefix_cons] at h
          rw [spell_cons, List.cons_prefix_cons]
          exact ⟨h.1, ih x hw.2 h.2⟩

/-- A verbatim segment stands in the converted pattern as it stood in the pattern. -/
theorem Segment.Front.convert {w : List (Fin 128)} {x rest : List α}
    (h : (Segment.verbatim w).Front x rest) :
    (Segment.verbatim w).Front (convert x) (convert rest) := by
  apply h.transfer (beginAlike_convert x)
  rintro v hv rfl
  exact convert_append_plain (backslash_notMem_spell hv) rest

theorem front_hex (y : List α) :
    (Segment.verbatim [ascii '\\']).Front (ascii 'x' :: y) (ascii 'x' :: y) := by
  have hd : ∀ d, ofOctal (α := α) d ≠ ascii 'x' := ofOctal_ne_ascii (by decide)
  have hz : ascii (α := α) '0' ≠ ascii 'x' := ne_of_word (by decide)
  have ho : ascii (α := α) 'o' ≠ ascii 'x' := ne_of_word (by decide)
  apply front_lone <;> rw [Bool.eq_false_iff, ne_eq]
  · simp [startsZeroOctal_iff, List.cons_prefix_cons, hz]
  · simp [startsThreeOctal_iff, List.cons_prefix_cons, hd]
  · simp [startsBrace_iff, List.cons_prefix_cons, ho]

theorem backslash_notMem_hex (ds : List (Fin 16)) : ascii (α := α) '\\' ∉ ds.map ofHex := by
  have hne : ∀ d, ofHex (α := Fin 128) d ≠ ascii '\\' := by decide
  intro h
  obtain ⟨d, _, hd⟩ := List.mem_map.1 h
  rw [← ofAscii_ofHex, ← ofAscii_ascii] at hd
  exact hne d (ofAscii_injective hd)

/-- What an escape is written as is cut into single symbols. -/
theorem scan_output_escape (ds : List (Fin 8)) (x : List α) :
    scan ((Segment.escape ds).output ++ x) =
      (Segment.escape ds).output.map (fun a => .verbatim [a]) ++ scan x := by
  have hw : ascii (α := α) '\\' ∉ ascii 'x' :: ascii '\x7b' ::
      ((hexDigits (octalValue ds)).map ofHex ++ [ascii '\x7d']) := by
    simp only [List.mem_cons, List.mem_append, List.not_mem_nil, or_false, not_or]
    exact ⟨ne_of_word (by decide), ne_of_word (by decide), backslash_notMem_hex _,
      ne_of_word (by decide)⟩
  rw [Segment.output, List.cons_append, List.cons_append, (front_hex _).scan_eq,
    ← List.cons_append, scan_append_plain hw]
  rfl

/-- **A converted pattern holds no braced octal escape.** -/
theorem isEscape_of_mem_scan_convert (p : List α) :
    ∀ s ∈ scan (convert p), s.isEscape = false := by
  induction p using pattern_induction with
  | nil => simp
  | other a x ha ih =>
    rw [convert_of_ne ha, scan_of_ne ha]
    simpa [Segment.isEscape] using ih
  | backslash u x rest hu ih =>
    cases u with
    | verbatim text =>
      obtain ⟨_, w, rfl, _⟩ := id hu
      have hs := hu.convert.source_eq
      rw [hu.convert_eq]
      rw [Segment.source] at hs
      rw [Segment.output, ← hs, hu.convert.scan_eq]
      simpa [Segment.isEscape, Segment.spell] using ih
    | escape ds =>
      rw [hu.convert_eq, ← Segment.output_spell, Segment.spell, scan_output_escape]
      simpa [or_imp, forall_and, Segment.isEscape] using ih

theorem Segment.output_eq_source {s : Segment α} (h : s.isEscape = false) : s.output = s.source := by
  cases s with
  | verbatim text => rfl
  | escape ds => cases h

theorem outputs_of_verbatim {segments : List (Segment α)} (h : ∀ s ∈ segments, s.isEscape = false) :
    outputs segments = segments.flatMap Segment.source := by
  induction segments with
  | nil => rfl
  | cons s rest ih =>
    simp only [List.mem_cons, forall_eq_or_imp] at h
    rw [List.flatMap_cons, ← ih h.2, ← Segment.output_eq_source h.1]
    rfl

/-- Positions are kept where nothing is rewritten. -/
theorem originIn_of_verbatim {segments : List (Segment α)} (h : ∀ s ∈ segments, s.isEscape = false)
    (position : Int) : originIn segments position = position := by
  induction segments generalizing position with
  | nil => rfl
  | cons s rest ih =>
    simp only [List.mem_cons, forall_eq_or_imp] at h
    rw [originIn, h.1, ih h.2, ← Segment.output_eq_source h.1]
    split
    · rfl
    · omega

/-- **Converting twice is converting once.** -/
theorem convert_convert (p : List α) : convert (convert p) = convert p := by
  rw [convert, outputs_of_verbatim (isEscape_of_mem_scan_convert p), flatMap_source_scan]

/-- Positions of a converted pattern stay where they are. -/
theorem originalPosition_convert (p : List α) (position : Int) :
    originalPosition (convert p) position = position :=
  originIn_of_verbatim (isEscape_of_mem_scan_convert p) position

/-! ## Patterns that conversion leaves alone -/

/-- An escape is never written as it was: the letter after its backslash changes. -/
theorem Segment.output_escape_append_ne (ds : List (Fin 8)) (x y : List α) :
    (Segment.escape ds).output ++ x ≠ (Segment.escape ds).source ++ y := by
  intro h
  have hletter : ascii (α := α) 'x' ≠ ascii 'o' := ne_of_word (by decide)
  exact hletter (List.cons.inj (List.cons.inj h).2).1

/-- What is written for a segment differs from it exactly if it is an escape. -/
theorem Segment.output_eq_source_iff {s : Segment α} : s.output = s.source ↔ s.isEscape = false := by
  refine ⟨fun h => ?_, Segment.output_eq_source⟩
  cases s with
  | verbatim text => rfl
  | escape ds => exact absurd (congrArg (· ++ []) h) (Segment.output_escape_append_ne ds [] [])

/-- The first escape of a pattern shows in the converted pattern, whatever follows it. -/
theorem convert_eq_self_iff {p : List α} : convert p = p ↔ ∀ s ∈ scan p, s.isEscape = false := by
  constructor
  · induction p using pattern_induction with
    | nil => simp
    | other a x ha ih =>
      intro h
      rw [convert_of_ne ha] at h
      rw [scan_of_ne ha, List.forall_mem_cons]
      exact ⟨rfl, ih (List.cons.inj h).2⟩
    | backslash u x rest hu ih =>
      intro h
      rw [hu.convert_eq, hu.source_eq, ← Segment.output_spell, ← Segment.source_spell] at h
      rw [hu.scan_eq, List.forall_mem_cons]
      cases u with
      | verbatim w => exact ⟨rfl, ih (List.append_cancel_left h)⟩
      | escape ds => exact absurd h (Segment.output_escape_append_ne ds _ _)
  · intro h
    rw [convert, outputs_of_verbatim h, flatMap_source_scan]

/-- **Conversion is done once and for all.** A converted pattern is its own conversion, every position
in it stands for itself, before its start and beyond its end too, and a pattern comes back unchanged
only if none of its segments is rewritten. -/
theorem converted_pattern_inert (p : List α) :
    convert (convert p) = convert p ∧
      (∀ position : Int, originalPosition (convert p) position = position) ∧
      (convert p = p ↔ ∀ s ∈ scan p, s.output = s.source) := by
  refine ⟨convert_convert p, originalPosition_convert p, ?_⟩
  simp only [convert_eq_self_iff, Segment.output_eq_source_iff]

end RuleRegex
