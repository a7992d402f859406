import RuleRegex.Proofs.Escape.Backslash

/-!
# Cutting a pattern between segments

What the scan decides at a backslash it decides from words that must stand after it. A text that is cut
after a segment has the words of the segment still, and has no word that it did not have before. So
a pattern can be cut between any two of its segments, and also inside a segment that stands as it is.

## Main definitions

* `Piece` — a segment of a pattern with the segments before and after it.
-/

namespace RuleRegex

open Alphabet

variable {α : Type} [Alphabet α]

/-! ## Beginnings of a text -/

theorem startsZeroOctal_cut {x y : List α} (hy : y <+: x) (h : startsZeroOctal x = false) :
    startsZeroOctal y = false := by
  rw [Bool.eq_false_iff, ne_eq, startsZeroOctal_iff] at h ⊢
  rintro ⟨d, e, g, hw⟩
  exact h ⟨d, e, g, hw.trans hy⟩

theorem startsThreeOctal_cut {x y : List α} (hy : y <+: x) (h : startsThreeOctal x = false) :
    startsThreeOctal y = false := by
  rw [Bool.eq_false_iff, ne_eq, startsThreeOctal_iff] at h ⊢
  rintro ⟨d, e, g, hw⟩
  exact h ⟨d, e, g, hw.trans hy⟩

theorem startsBrace_cut {x y : List α} (hy : y <+: x) (h : startsBrace x = false) :
    startsBrace y = false := by
  rw [Bool.eq_false_iff, ne_eq, startsBrace_iff] at h ⊢
  intro hw
  exact h (hw.trans hy)

theorem bracedOctal?_cut {x y : List α} (hy : y <+: x) (h : bracedOctal? x = none) :
    bracedOctal? y = none := by
  obtain ⟨t, rfl⟩ := hy
  rw [Option.eq_none_iff_forall_ne_some] at h ⊢
  rintro ⟨ds, after⟩ hsome
  obtain ⟨hne, rfl⟩ := bracedOctal?_eq_some_iff.1 hsome
  exact h (ds, after ++ t) (bracedOctal?_eq_some_iff.2 ⟨hne, by simp⟩)

/-! ## The cut after the first segment -/

namespace Segment.Front

variable {u v : Segment (Fin 128)} {x y rest rest' : List α}

theorem unique (hu : u.Front x rest) (hv : v.Front x rest') : u = v ∧ rest = rest' :=
  ⟨hu.eq_of_front hv, congrArg Prod.snd (hu.1.symm.trans hv.1)⟩

/-- **The segment at the front stays there when the text is cut after it.** -/
theorem cut (hu : u.Front x rest) (hy : y <+: rest) : ∃ x', u.Front x' y := by
  cases h0 : startsZeroOctal x with
  | true =>
    obtain ⟨d, e, g, z, rfl⟩ := startsZeroOctal_iff.1 h0
    obtain ⟨rfl, rfl⟩ := hu.unique (front_zeroOctal d e g z)
    exact ⟨_, front_zeroOctal d e g y⟩
  | false =>
    cases h3 : startsThreeOctal x with
    | true =>
      obtain ⟨d, e, g, z, rfl⟩ := startsThreeOctal_iff.1 h3
      obtain ⟨rfl, rfl⟩ := hu.unique (front_threeOctal d e g z h0)
      have hcut : [d, e, g].map ofOctal ++ y <+: [d, e, g].map ofOctal ++ rest :=
        (List.prefix_append_right_inj _).2 hy
      exact ⟨_, front_threeOctal d e g y (startsZeroOctal_cut hcut h0)⟩
    | false =>
      cases hb : startsBrace x with
      | true =>
        obtain ⟨z, rfl⟩ := startsBrace_iff.1 hb
        cases hds : bracedOctal? z with
        | some q =>
          obtain ⟨ds, after⟩ := q
          obtain ⟨hne, rfl⟩ := bracedOctal?_eq_some_iff.1 hds
          obtain ⟨rfl, rfl⟩ := hu.unique (front_braced hne after)
          exact ⟨_, front_braced hne y⟩
        | none =>
          obtain ⟨rfl, rfl⟩ := hu.unique (front_unbraced hds)
          exact ⟨_, front_unbraced (bracedOctal?_cut hy hds)⟩
      | false =>
        obtain ⟨rfl, rfl⟩ := hu.unique (front_lone h0 h3 hb)
        exact ⟨y, front_lone (startsZeroOctal_cut hy h0) (startsThreeOctal_cut hy h3)
          (startsBrace_cut hy hb)⟩

end Segment.Front

/-! ## Cuts between segments -/

variable {p y : List α} {s : Segment α} {l r segments : List (Segment α)}

/-- The scan of a pattern is its first segment and the scan of the rest, also when the rest is cut. -/
theorem scan_first (h : scan p = s :: segments) (hy : y <+: segments.flatMap Segment.source) :
    scan (s.source ++ y) = s :: scan y := by
  cases p with
  | nil => simp at h
  | cons a x =>
    by_cases ha : a = ascii '\\'
    · subst ha
      obtain ⟨u, rest, hu⟩ := exists_front x
      obtain ⟨rfl, rfl⟩ := List.cons.inj (hu.scan_eq.symm.trans h)
      rw [flatMap_source_scan] at hy
      obtain ⟨x', hx'⟩ := hu.cut hy
      rw [Segment.source_spell, ← hx'.source_eq, hx'.scan_eq]
    · obtain ⟨rfl, rfl⟩ := List.cons.inj ((scan_of_ne ha x).symm.trans h)
      exact scan_of_ne ha y

/-- What follows the first segment is scanned by itself. -/
theorem scan_rest (h : scan p = s :: segments) : scan (segments.flatMap Segment.source) = segments := by
  have hp : s.source ++ segments.flatMap Segment.source = p := by
    rw [← List.flatMap_cons, ← h, flatMap_source_scan]
  have hfirst := scan_first h (List.prefix_refl _)
  rw [hp, h] at hfirst
  exact (List.cons.inj hfirst).2.symm

/-- **The segments before a border are not changed by a cut behind it.** -/
theorem scan_cut (h : scan p = l ++ r) (hy : y <+: r.flatMap Segment.source) :
    scan (l.flatMap Segment.source ++ y) = l ++ scan y := by
  induction l generalizing p with
  | nil => rfl
  | cons s l ih =>
    have hcut : l.flatMap Segment.source ++ y <+: (l ++ r).flatMap Segment.source := by
      rw [List.flatMap_append]
      exact (List.prefix_append_right_inj _).2 hy
    rw [List.flatMap_cons, List.append_assoc, scan_first h hcut, ih (scan_rest h), List.cons_append]

/-- The sources of the first segments are cut into these segments again. -/
theorem scan_sources_left (h : scan p = l ++ r) : scan (l.flatMap Segment.source) = l := by
  simpa using scan_cut h List.nil_prefix

/-- The sources of the last segments are cut into these segments again. -/
theorem scan_sources_right (h : scan p = l ++ r) : scan (r.flatMap Segment.source) = r := by
  have hcut := scan_cut h (List.prefix_refl _)
  rw [← List.flatMap_append, ← h, flatMap_source_scan, h] at hcut
  exact (List.append_cancel_left hcut).symm

/-! ## Cuts inside segments -/

/-- A pattern is left as it is exactly if it has no braced octal escape. -/
theorem convert_eq_self_iff_not_braced :
    convert p = p ↔ ∀ before ds after, ¬Braced p before ds after := by
  simp only [convert_eq_self_iff, ← escapeAt_scan_iff]
  constructor
  · rintro h before ds after ⟨l, r, hp, -, -⟩
    have hescape := h (.escape ds) (by simp [hp])
    cases hescape
  · intro h s hs
    obtain ⟨l, r, hp⟩ := List.append_of_mem hs
    cases s with
    | verbatim text => rfl
    | escape ds => exact absurd ⟨l, r, hp, rfl, rfl⟩ (h _ ds _)

/-- A beginning of a pattern has no escape that the pattern has not. -/
theorem convert_eq_self_cut (h : convert p = p) (hy : y <+: p) : convert y = y := by
  obtain ⟨t, rfl⟩ := hy
  rw [convert_eq_self_iff_not_braced] at h ⊢
  rintro before ds after ⟨hne, rfl⟩
  exact h before ds (after ++ t) ⟨hne, by simp⟩

theorem outputs_append (l r : List (Segment α)) : outputs (l ++ r) = outputs l ++ outputs r :=
  List.flatMap_append

/-- A segment of a pattern with the segments before and after it. -/
structure Piece (p : List α) where
  before : List (Segment α)
  segment : Segment α
  after : List (Segment α)
  scan_eq : scan p = before ++ segment :: after

namespace Piece

variable (e : Piece p)

def sourceStart : Nat := (e.before.flatMap Segment.source).length

def sourceStop : Nat := e.sourceStart + e.segment.source.length

def outputStart : Nat := (outputs e.before).length

def outputStop : Nat := e.outputStart + e.segment.output.length

/-- The pattern is what stands before a segment, the segment, and what follows. -/
theorem source_eq : p = e.before.flatMap Segment.source ++
    (e.segment.source ++ e.after.flatMap Segment.source) := by
  have h := flatMap_source_scan p
  rw [e.scan_eq, List.flatMap_append, List.flatMap_cons] at h
  exact h.symm

/-- The converted pattern is what is written for the segments before, the segment, and those after. -/
theorem output_eq : convert p = outputs e.before ++ (e.segment.output ++ outputs e.after) := by
  rw [convert, e.scan_eq, outputs_append]
  rfl

theorem drop_sourceStart :
    p.drop e.sourceStart = e.segment.source ++ e.after.flatMap Segment.source :=
  (congrArg (List.drop e.sourceStart) e.source_eq).trans List.drop_left

theorem drop_outputStart :
    (convert p).drop e.outputStart = e.segment.output ++ outputs e.after := by
  rw [e.output_eq]
  exact List.drop_left

theorem take_sourceStart_add {k : Nat} (hk : k ≤ e.segment.source.length) :
    p.take (e.sourceStart + k) = e.before.flatMap Segment.source ++ e.segment.source.take k := by
  refine (congrArg (List.take (e.sourceStart + k)) e.source_eq).trans ?_
  rw [sourceStart, List.take_length_add_append, List.take_append_of_le_length hk]

theorem take_outputStart_add {k : Nat} (hk : k ≤ e.segment.output.length) :
    (convert p).take (e.outputStart + k) = outputs e.before ++ e.segment.output.take k := by
  rw [e.output_eq, outputStart, List.take_length_add_append, List.take_append_of_le_length hk]

/-- A segment that stands as it is has no escape in it. -/
theorem convert_source (h : e.segment.isEscape = false) :
    convert e.segment.source = e.segment.source := by
  have hright : scan (e.segment.source ++ e.after.flatMap Segment.source) =
      [e.segment] ++ e.after := scan_sources_right e.scan_eq
  have hscan : scan ([e.segment].flatMap Segment.source) = [e.segment] := scan_sources_left hright
  rw [List.flatMap_singleton] at hscan
  rw [convert_eq_self_iff, hscan]
  simpa using h

/-- **A pattern that is cut at a segment, or inside one that stands as it is, is converted up to the
cut** as the whole pattern is. -/
theorem convert_take {k : Nat} (hk : k = 0 ∨ k ≤ e.segment.source.length ∧ e.segment.isEscape = false) :
    convert (p.take (e.sourceStart + k)) = (convert p).take (e.outputStart + k) := by
  have hsource : e.segment.source.take k <+: (e.segment :: e.after).flatMap Segment.source := by
    rw [List.flatMap_cons]
    exact (List.take_prefix _ _).trans (List.prefix_append _ _)
  have hcut := scan_cut e.scan_eq hsource
  obtain ⟨hle, hoff, hsame⟩ : k ≤ e.segment.source.length ∧ k ≤ e.segment.output.length ∧
      convert (e.segment.source.take k) = e.segment.output.take k := by
    rcases hk with rfl | ⟨hk, hverbatim⟩
    · simp
    · rw [Segment.output_eq_source hverbatim]
      exact ⟨hk, hk, convert_eq_self_cut (e.convert_source hverbatim) (List.take_prefix _ _)⟩
  rw [e.take_sourceStart_add hle, e.take_outputStart_add hoff, convert, hcut, outputs_append, ← convert,
    hsame]

end Piece

end RuleRegex
