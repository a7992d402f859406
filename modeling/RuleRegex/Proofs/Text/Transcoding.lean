import RuleRegex.Proofs.Text.Ascii

/-!
# Transcodings

A transcoding writes a text anew in another alphabet. It keeps every ASCII symbol where it is, and what
stands between two of them does not depend on what stands elsewhere. Characters are decoded from bytes
and encoded in bytes in this way.

## Main definitions

* `Transcoding` — what a function between texts has to keep.
-/

namespace RuleRegex

open Alphabet

variable {α β : Type} [Alphabet α] [Alphabet β]

/-- A function between texts that keeps ASCII symbols and cuts the text at each. -/
structure Transcoding (f : List α → List β) : Prop where
  nil : f [] = []
  /-- An ASCII symbol stands by itself. -/
  split : ∀ u i x, f (u ++ ofAscii i :: x) = f u ++ ofAscii i :: f x
  /-- A run of wide symbols gives wide symbols only. -/
  wide : ∀ u, (∀ a ∈ u, Wide a) → ∀ b ∈ f u, Wide b
  /-- Such a run does not vanish. -/
  ne_nil : ∀ u, (∀ a ∈ u, Wide a) → u ≠ [] → f u ≠ []

namespace Transcoding

variable {f : List α → List β} (hf : Transcoding f)

include hf

theorem cons (i : Fin 128) (x : List α) : f (ofAscii i :: x) = ofAscii i :: f x := by
  have h := hf.split [] i x
  rwa [hf.nil] at h

theorem spell_append (w : List (Fin 128)) (x : List α) : f (spell w ++ x) = spell w ++ f x := by
  induction w with
  | nil => rfl
  | cons i w ih => rw [spell_cons, spell_cons, List.cons_append, List.cons_append, hf.cons, ih]

/-- A cut before an ASCII symbol is kept. -/
theorem wide_append {u x : List α} (hx : Narrow x) : f (u ++ x) = f u ++ f x := by
  rcases hx.eq_nil_or with rfl | ⟨i, y, rfl⟩
  · rw [hf.nil, List.append_nil, List.append_nil]
  · rw [hf.split, hf.cons]

/-- A text and its transcription begin with the same ASCII symbol or with none. -/
theorem exists_eq_cons {i : Fin 128} {x : List α} {t : List β} (h : f x = ofAscii i :: t) :
    ∃ y, x = ofAscii i :: y ∧ f y = t := by
  obtain ⟨u, y, hu, hy, rfl⟩ := exists_wide_append x
  by_cases hne : u = []
  · subst hne
    rcases hy.eq_nil_or with rfl | ⟨j, y, rfl⟩
    · rw [List.append_nil, hf.nil] at h
      cases h
    · rw [List.nil_append, hf.cons] at h
      obtain ⟨hij, ht⟩ := List.cons.inj h
      obtain rfl := ofAscii_injective hij
      exact ⟨y, rfl, ht⟩
  · obtain ⟨b, v, hv⟩ := List.exists_cons_of_ne_nil (hf.ne_nil u hu hne)
    rw [hf.wide_append hy, hv] at h
    obtain rfl := (List.cons.inj h).1
    exact absurd (hf.wide u hu _ (hv ▸ List.mem_cons_self)) (not_wide_ofAscii i)

/-- A transcoded text begins with the ASCII words that the text begins with. -/
theorem spell_prefix_iff {w : List (Fin 128)} {x : List α} :
    spell w <+: f x ↔ spell w <+: x := by
  constructor
  · induction w generalizing x with
    | nil => simp
    | cons i w ih =>
      rintro ⟨t, ht⟩
      obtain ⟨y, rfl, hy⟩ := hf.exists_eq_cons ht.symm
      rw [spell_cons, List.cons_prefix_cons]
      exact ⟨rfl, ih ⟨t, hy.symm⟩⟩
  · rintro ⟨y, rfl⟩
    rw [hf.spell_append]
    exact List.prefix_append _ _

end Transcoding

end RuleRegex
