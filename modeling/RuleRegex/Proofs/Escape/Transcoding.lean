import RuleRegex.Proofs.Escape.Converted
import RuleRegex.Proofs.Text.Transcoding

/-!
# Conversion in two alphabets

Escapes are spelled in ASCII, so a transcoding leaves them as they are: it does not matter whether a
pattern is converted before or after it is written in another alphabet.
-/

namespace RuleRegex

open Alphabet

variable {α β : Type} [Alphabet α] [Alphabet β]

theorem narrow_convert {x : List α} (hx : Narrow x) : Narrow (convert x) := by
  rcases hx.eq_nil_or with rfl | ⟨i, y, rfl⟩
  · simpa using narrow_nil
  by_cases hi : i = ascii '\\'
  · subst hi
    obtain ⟨u, rest, hu⟩ := exists_front y
    obtain ⟨v, hv⟩ := hu.exists_output
    rw [ofAscii_ascii, hu.convert_eq, hv]
    exact narrow_ofAscii _ _
  · rw [convert_of_ne (ne_of_word hi)]
    exact narrow_ofAscii _ _

theorem backslash_notMem_wide {u : List α} (hu : ∀ a ∈ u, Wide a) : ascii '\\' ∉ u :=
  ofAscii_notMem_wide hu _

namespace Transcoding

variable {f : List α → List β} (hf : Transcoding f)

include hf

theorem front {u : Segment (Fin 128)} {x rest : List α} (hu : u.Front x rest) :
    u.Front (f x) (f rest) := by
  apply hu.transfer (fun w _ => hf.spell_prefix_iff.symm)
  rintro w _ rfl
  exact hf.spell_append w rest

/-- **Conversion commutes with every transcoding.** -/
theorem convert (p : List α) : f (RuleRegex.convert p) = RuleRegex.convert (f p) := by
  induction p using run_induction with
  | nil => rw [convert_nil, hf.nil, convert_nil]
  | wide u x hu _ hx ih =>
    calc f (RuleRegex.convert (u ++ x))
        = f (u ++ RuleRegex.convert x) := by rw [convert_append_plain (backslash_notMem_wide hu)]
      _ = f u ++ RuleRegex.convert (f x) := by rw [hf.wide_append (narrow_convert hx), ih]
      _ = RuleRegex.convert (f u ++ f x) := by
        rw [convert_append_plain (backslash_notMem_wide (hf.wide u hu))]
      _ = RuleRegex.convert (f (u ++ x)) := by rw [hf.wide_append hx]
  | plain i x hi ih =>
    rw [convert_of_ne (ne_of_word hi), hf.cons, hf.cons, convert_of_ne (ne_of_word hi), ih]
  | backslash u x rest hu ih =>
    have hb : f (ascii '\\' :: x) = ascii '\\' :: f x := hf.cons (ascii '\\') x
    rw [hu.convert_eq, hf.spell_append, ih, hb, (hf.front hu).convert_eq]

end Transcoding

end RuleRegex
