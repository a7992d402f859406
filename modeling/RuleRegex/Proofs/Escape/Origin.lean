import RuleRegex.Proofs.Escape.Border
import RuleRegex.Proofs.Escape.Position

/-!
# What a position stands at

A position that is not inside a rewritten escape goes back to where the same symbol stands, with the same
text converted before it; a position in a rewritten escape goes back to the backslash of the escape. No
place of the pattern is missed but the insides of its escapes.
-/

namespace RuleRegex

open Alphabet

variable {α : Type} [Alphabet α] {p : List α}

/-- A position in a list of concatenated parts is one in a part. -/
theorem exists_part_of_lt_length {β γ : Type} (f : β → List γ) {xs : List β} {n : Nat}
    (h : n < (xs.flatMap f).length) :
    ∃ l a r k, xs = l ++ a :: r ∧ k < (f a).length ∧ n = (l.flatMap f).length + k := by
  induction xs generalizing n with
  | nil => simp at h
  | cons a xs ih =>
    by_cases hn : n < (f a).length
    · exact ⟨[], a, xs, n, rfl, hn, by simp⟩
    · rw [List.flatMap_cons, List.length_append] at h
      obtain ⟨l, b, r, k, rfl, hk, hl⟩ := ih (n := n - (f a).length) (by omega)
      refine ⟨a :: l, b, r, k, rfl, hk, ?_⟩
      rw [List.flatMap_cons, List.length_append]
      omega

theorem Segment.output_head? {s : Segment α} : s.output[0]? = s.source[0]? := by
  cases s <;> rfl

theorem Segment.exists_source_of_isEscape {s : Segment α} (h : s.isEscape = true) :
    ∃ rest, s.source = ascii '\\' :: rest := by
  cases s with
  | verbatim text => cases h
  | escape ds => exact ⟨_, rfl⟩

namespace Piece

/-- Every position of the converted pattern is in what one segment is written as. -/
theorem exists_of_lt_output {o : Nat} (h : o < (convert p).length) :
    ∃ (e : Piece p) (k : Nat), k < e.segment.output.length ∧ o = e.outputStart + k := by
  obtain ⟨l, s, r, k, hscan, hk, ho⟩ := exists_part_of_lt_length Segment.output h
  exact ⟨⟨l, s, r, hscan⟩, k, hk, ho⟩

/-- Every position of the pattern is in one segment. -/
theorem exists_of_lt_source {n : Nat} (h : n < p.length) :
    ∃ (e : Piece p) (k : Nat), k < e.segment.source.length ∧ n = e.sourceStart + k := by
  rw [← flatMap_source_scan p] at h
  obtain ⟨l, s, r, k, hscan, hk, hn⟩ := exists_part_of_lt_length Segment.source h
  exact ⟨⟨l, s, r, hscan⟩, k, hk, hn⟩

variable (e : Piece p)

theorem outputStop_le : e.outputStop ≤ (convert p).length := by
  rw [e.output_eq, outputStop, outputStart]
  simp only [List.length_append]
  omega

/-- **The positions of a segment go back to its source**, all to the start of it if it is rewritten, and
one by one if it stands as it is. -/
theorem originalPosition_add {k : Nat} (hk : k < e.segment.output.length) :
    originalPosition p (e.outputStart + k : Nat) =
      (e.sourceStart + if e.segment.isEscape then 0 else k : Nat) := by
  have hle : ((outputs e.before).length : Int) ≤ (e.outputStart + k : Nat) := by
    rw [outputStart]
    omega
  rw [originalPosition, e.scan_eq, originIn_append hle, originIn_cons_of_lt (by grind [outputStart])]
  grind [outputStart, sourceStart]

/-- Inside what an escape is written as, positions go back to where the escape begins. -/
theorem originalPosition_of_isEscape (h : e.segment.isEscape = true) {o : Nat}
    (hstart : e.outputStart ≤ o) (hstop : o < e.outputStop) : originalPosition p o = e.sourceStart := by
  obtain ⟨k, rfl⟩ := Nat.exists_eq_add_of_le hstart
  have hk : k < e.segment.output.length := by
    rw [outputStop] at hstop
    omega
  rw [e.originalPosition_add hk, h]
  rfl

/-- The same symbol stands at a position of a segment and where it goes back to, unless it is inside
a rewritten escape. -/
theorem getElem?_outputStart_add {k : Nat} (hk : k < e.segment.output.length)
    (h : k = 0 ∨ e.segment.isEscape = false) :
    (convert p)[e.outputStart + k]? = p[e.sourceStart + k]? := by
  have hsame : e.segment.output[k]? = e.segment.source[k]? := by
    rcases h with rfl | hverbatim
    · exact Segment.output_head?
    · rw [Segment.output_eq_source hverbatim]
  have hsource : k < e.segment.source.length := by grind
  rw [← List.getElem?_drop, ← List.getElem?_drop, e.drop_outputStart, e.drop_sourceStart,
    List.getElem?_append_left hk, List.getElem?_append_left hsource, hsame]

end Piece

/-- A position that is not strictly inside a rewritten escape goes back to the same symbol, or from the
end to the end, and a cut at both changes nothing before it. -/
theorem origin_of_not_inside {o r : Nat} (ho : o ≤ (convert p).length) (hr : originalPosition p o = r)
    (h : ∀ e : Piece p, e.segment.isEscape = true → ¬(e.outputStart < o ∧ o < e.outputStop)) :
    convert (p.take r) = (convert p).take o ∧ (convert p)[o]? = p[r]? := by
  rcases Nat.lt_or_eq_of_le ho with hlt | rfl
  · obtain ⟨e, k, hk, rfl⟩ := Piece.exists_of_lt_output hlt
    have hcut : k = 0 ∨ e.segment.isEscape = false := by
      by_contra hboth
      rw [not_or, Bool.not_eq_false] at hboth
      exact h e hboth.2 ⟨by omega, by rw [Piece.outputStop]; omega⟩
    obtain rfl : r = e.sourceStart + k := by
      have horigin := e.originalPosition_add hk
      grind
    have hsource : k = 0 ∨ k ≤ e.segment.source.length ∧ e.segment.isEscape = false := by
      grind [Segment.output_eq_source]
    exact ⟨e.convert_take hsource, e.getElem?_outputStart_add hk hcut⟩
  · obtain rfl : r = p.length := by
      have hend := originalPosition_end p
      omega
    simp

/-- Inside a rewritten escape the origin is the backslash of the escape, and what stands before it is
converted to what stands before. -/
theorem origin_of_isEscape (e : Piece p) (h : e.segment.isEscape = true) {o r : Nat}
    (hr : originalPosition p o = r) (hstart : e.outputStart ≤ o) (hstop : o < e.outputStop) :
    r = e.sourceStart ∧ p[r]? = some (ascii '\\') ∧ e.segment.source <+: p.drop r ∧
      convert (p.take r) = (convert p).take e.outputStart := by
  obtain rfl : r = e.sourceStart := by
    have horigin := e.originalPosition_of_isEscape h hstart hstop
    omega
  obtain ⟨rest, hrest⟩ := Segment.exists_source_of_isEscape h
  have hdrop := e.drop_sourceStart
  refine ⟨rfl, ?_, ?_, e.convert_take (.inl rfl)⟩
  · rw [← Nat.add_zero e.sourceStart, ← List.getElem?_drop, hdrop, hrest]
    rfl
  · rw [hdrop]
    exact List.prefix_append _ _

/-- Every place of a pattern that is not strictly inside an escape comes from some position. -/
theorem exists_position_of_not_inside {r : Nat} (hr : r ≤ p.length)
    (h : ∀ e : Piece p, e.segment.isEscape = true → ¬(e.sourceStart < r ∧ r < e.sourceStop)) :
    ∃ o : Nat, o ≤ (convert p).length ∧ originalPosition p o = r := by
  rcases Nat.lt_or_eq_of_le hr with hlt | rfl
  · obtain ⟨e, k, hk, rfl⟩ := Piece.exists_of_lt_source hlt
    have hcut : k = 0 ∨ e.segment.isEscape = false := by
      by_contra hboth
      rw [not_or, Bool.not_eq_false] at hboth
      exact h e hboth.2 ⟨by omega, by rw [Piece.sourceStop]; omega⟩
    have hoff : k < e.segment.output.length := by
      have hhead := Segment.output_head? (s := e.segment)
      grind [Segment.output_eq_source]
    refine ⟨e.outputStart + k, ?_, ?_⟩
    · have hstop := e.outputStop_le
      rw [Piece.outputStop] at hstop
      omega
    · rw [e.originalPosition_add hoff]
      grind
  · exact ⟨(convert p).length, Nat.le_refl _, originalPosition_end p⟩

/-- **Positions go back to what they stand at.** For a position that is not strictly inside what an escape
is rewritten as, the pattern up to where it goes back to is converted to the text before it, and the same
symbol stands there, if any. All positions of a rewritten escape go back to its backslash, and the pattern
before that is converted to the text before the rewritten escape. Every place of the pattern that is not
strictly inside an escape comes from some position. -/
theorem originalPosition_marks_origin (p : List α) :
    (∀ o : Nat, o ≤ (convert p).length → ∃ r : Nat, r ≤ p.length ∧ originalPosition p o = r ∧
      ((∀ e : Piece p, e.segment.isEscape = true → ¬(e.outputStart < o ∧ o < e.outputStop)) →
        convert (p.take r) = (convert p).take o ∧ (convert p)[o]? = p[r]?) ∧
      ∀ e : Piece p, e.segment.isEscape = true → e.outputStart ≤ o → o < e.outputStop →
        r = e.sourceStart ∧ p[r]? = some (ascii '\\') ∧ e.segment.source <+: p.drop r ∧
          convert (p.take r) = (convert p).take e.outputStart) ∧
    ∀ r : Nat, r ≤ p.length →
      (∀ e : Piece p, e.segment.isEscape = true → ¬(e.sourceStart < r ∧ r < e.sourceStop)) →
        ∃ o : Nat, o ≤ (convert p).length ∧ originalPosition p o = r := by
  refine ⟨?_, fun r hr => exists_position_of_not_inside hr⟩
  intro o ho
  have hnonneg : 0 ≤ originalPosition p o := originalPosition_nonneg (Int.natCast_nonneg o)
  have hle : originalPosition p o ≤ p.length := originalPosition_le (by omega)
  obtain ⟨r, hr⟩ := Int.eq_ofNat_of_zero_le hnonneg
  refine ⟨r, by omega, hr, origin_of_not_inside ho hr, ?_⟩
  intro e hescape hstart hstop
  exact origin_of_isEscape e hescape hr hstart hstop

end RuleRegex
