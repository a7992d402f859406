import Mathlib.Data.Nat.Digits.Lemmas
import RuleRegex.Proofs.Escape.Border
import RuleRegex.Proofs.Escape.Position
import RuleRegex.Text.Hex

/-!
# The value of an escape

An octal escape is rewritten as the hexadecimal digits of the same number. A hexadecimal digit stands for
more than an octal one, so there are no more of them, and no text before a border between segments gets
longer.

## Main definitions

* `Writes` — hexadecimal digits write a number without leading zeros.
-/

namespace RuleRegex

open Alphabet

variable {α : Type} [Alphabet α]

/-! ## Digits -/

/-- Octal digits stand for their number in base eight. -/
theorem octalValue_eq (ds : List (Fin 8)) :
    octalValue ds = Nat.ofDigits 8 (ds.reverse.map Fin.val) := by
  rw [octalValue, Nat.ofDigits_eq_foldr, List.map_reverse, List.foldr_reverse, List.foldl_map]
  simp [Nat.add_comm]

/-- So many octal digits do not reach that power of eight. -/
theorem octalValue_lt (ds : List (Fin 8)) : octalValue ds < 8 ^ ds.length := by
  have hdigit : ∀ d ∈ ds.reverse.map Fin.val, d < 8 := by simp
  rw [octalValue_eq]
  simpa using Nat.ofDigits_lt_base_pow_length (by decide) hdigit

theorem hexDigitsOnto_eq_append (n : Nat) (acc : List (Fin 16)) :
    hexDigitsOnto n acc = hexDigits n ++ acc := by
  rw [hexDigits]
  induction n using Nat.strongRecOn generalizing acc with
  | ind n ih =>
    rw [hexDigitsOnto, hexDigitsOnto.eq_def n []]
    by_cases hn : n < 16
    · simp [hn]
    · have hlt : n / 16 < n := by omega
      simp only [hn, dif_neg, not_false_eq_true]
      rw [ih _ hlt, ih _ hlt [_], List.append_assoc]
      rfl

theorem hexDigits_of_lt {n : Nat} (h : n < 16) : hexDigits n = [Fin.ofNat 16 n] := by
  rw [hexDigits, hexDigitsOnto, dif_pos h]

/-- The last digit is the remainder, and the digits before it are those of the quotient. -/
theorem hexDigits_of_le {n : Nat} (h : 16 ≤ n) :
    hexDigits n = hexDigits (n / 16) ++ [Fin.ofNat 16 n] := by
  rw [hexDigits, hexDigitsOnto, dif_neg (Nat.not_lt.2 h), hexDigitsOnto_eq_append]

/-- The digits of a number that is not zero are those in base sixteen, the last one first. -/
theorem reverse_hexDigits {n : Nat} (h : n ≠ 0) :
    (hexDigits n).reverse.map Fin.val = Nat.digits 16 n := by
  induction n using Nat.strongRecOn with
  | ind n ih =>
    by_cases hn : n < 16
    · rw [hexDigits_of_lt hn, Nat.digits_of_lt 16 n h hn]
      simp [Nat.mod_eq_of_lt hn]
    · have hquotient : n / 16 ≠ 0 := by omega
      rw [hexDigits_of_le (Nat.not_lt.1 hn), List.reverse_append, List.map_append,
        ih (n / 16) (by omega) hquotient, Nat.digits_def' (by decide) (Nat.pos_of_ne_zero h)]
      rfl

theorem hexDigits_zero : hexDigits 0 = [0] := hexDigits_of_lt (by decide)

/-- Hexadecimal digits write a number: they have its value, and the first of them is not zero unless the
number is, which has one digit. -/
structure Writes (hs : List (Fin 16)) (n : Nat) : Prop where
  value : Nat.ofDigits 16 (hs.reverse.map Fin.val) = n
  zero : n = 0 → hs = [0]
  lead : n ≠ 0 → ∃ d rest, hs = d :: rest ∧ d ≠ 0

/-- The digits of a number have its value, without a zero in front. -/
theorem writes_hexDigits (n : Nat) : Writes (hexDigits n) n := by
  by_cases hn : n = 0
  · subst hn
    rw [hexDigits_zero]
    exact ⟨rfl, fun _ => rfl, fun h => absurd rfl h⟩
  · have hdigits := reverse_hexDigits hn
    refine ⟨by rw [hdigits, Nat.ofDigits_digits], fun h => absurd h hn, fun _ => ?_⟩
    cases hhex : hexDigits n with
    | nil =>
      rw [hhex] at hdigits
      exact absurd hdigits.symm (Nat.digits_ne_nil_iff_ne_zero.2 hn)
    | cons d rest =>
      refine ⟨d, rest, rfl, ?_⟩
      rintro rfl
      -- The first digit is the last of those in base sixteen.
      apply Nat.getLast_digit_ne_zero 16 hn
      simp [← hdigits, hhex]

/-- **A number of octal digits has no more hexadecimal ones.** -/
theorem length_hexDigits_octalValue_le {ds : List (Fin 8)} (h : ds ≠ []) :
    (hexDigits (octalValue ds)).length ≤ ds.length := by
  by_cases hn : octalValue ds = 0
  · rw [hn, hexDigits_zero]
    exact List.length_pos_iff.2 h
  · have hlt : octalValue ds < 16 ^ ds.length :=
      (octalValue_lt ds).trans_le (Nat.pow_le_pow_left (by decide) _)
    calc (hexDigits (octalValue ds)).length
        = (Nat.digits 16 (octalValue ds)).length := by rw [← reverse_hexDigits hn]; simp
      _ ≤ ds.length := (Nat.digits_length_le_iff (by decide) _).2 hlt

theorem ofOctal_eq_ascii (d : Fin 8) : ofOctal (α := α) d = ascii (Hex.digit d) := by
  have h : ∀ d : Fin 8, ofOctal (α := Fin 128) d = ascii (Hex.digit d) := by decide
  rw [← ofAscii_ofOctal, h, ofAscii_ascii]

theorem ofHex_eq_ascii (d : Fin 16) : ofHex (α := α) d = ascii (Hex.digit d) := by
  have h : ∀ d : Fin 16, ofHex (α := Fin 128) d = ascii (Hex.digit d) := by decide
  rw [← ofAscii_ofHex, h, ofAscii_ascii]

/-! ## Segments -/

variable {p : List α} {s : Segment α} {l r : List (Segment α)}

/-- Only an escape is written differently. -/
theorem Segment.exists_digits_of_output_ne (h : s.output ≠ s.source) : ∃ ds, s = .escape ds := by
  cases s with
  | verbatim text => exact absurd rfl h
  | escape ds => exact ⟨ds, rfl⟩

/-- What a segment of a pattern is written as is no longer than the segment. -/
theorem length_output_le (hs : s ∈ scan p) : s.output.length ≤ s.source.length := by
  cases s with
  | verbatim text => exact Nat.le_refl _
  | escape ds =>
    have hle := length_hexDigits_octalValue_le (digits_ne_nil_of_mem_scan hs)
    simpa [Segment.output, Segment.source] using hle

/-- If no segment grows, neither does the pattern. -/
theorem length_outputs_le (h : ∀ s ∈ l, s.output.length ≤ s.source.length) :
    (outputs l).length ≤ (l.flatMap Segment.source).length := by
  induction l with
  | nil => exact Nat.le_refl _
  | cons s l ih =>
    rw [List.forall_mem_cons] at h
    rw [length_outputs_cons, List.flatMap_cons, List.length_append]
    exact Nat.add_le_add h.1 (ih h.2)

/-- A border between segments goes back to the border between their sources. -/
theorem originalPosition_border (h : scan p = l ++ r) :
    originalPosition p (outputs l).length = (l.flatMap Segment.source).length := by
  rw [originalPosition, h, originIn_append (Int.le_refl _), Int.sub_self, originIn_zero, Int.add_zero]

/-- Up to every border the converted pattern is no longer than the pattern. -/
theorem length_outputs_le_of_scan (h : scan p = l ++ r) :
    (outputs l).length ≤ (l.flatMap Segment.source).length := by
  apply length_outputs_le
  intro s hs
  exact length_output_le (p := p) (by simp [h, hs])

/-- **A rewritten escape keeps its value and does not grow.** What is rewritten is octal digits in braces
after a backslash, and it is rewritten as the same number in lower-case hexadecimal digits, without leading
zeros and no more of them. So a converted pattern is no longer than the pattern, and neither is any part of
it up to a border between segments, which goes back to the border between their sources. -/
theorem rewritten_escape_keeps_value (p : List α) :
    (∀ e : Piece p, e.segment.output ≠ e.segment.source →
      ∃ (ds : List (Fin 8)) (hs : List (Fin 16)), ds ≠ [] ∧
        e.segment.source =
          ('\\' :: 'o' :: '\x7b' :: (ds.map (fun d => Hex.digit d.val) ++ ['\x7d'])).map ascii ∧
        e.segment.output =
          ('\\' :: 'x' :: '\x7b' :: (hs.map (fun d => Hex.digit d.val) ++ ['\x7d'])).map ascii ∧
        Writes hs (Nat.ofDigits 8 (ds.reverse.map Fin.val)) ∧ hs.length ≤ ds.length) ∧
    (convert p).length ≤ p.length ∧
    ∀ l r, scan p = l ++ r →
      originalPosition p (outputs l).length = (l.flatMap Segment.source).length ∧
        (outputs l).length ≤ (l.flatMap Segment.source).length := by
  refine ⟨fun e he => ?_, ?_, fun l r h => ⟨originalPosition_border h, length_outputs_le_of_scan h⟩⟩
  · obtain ⟨ds, hds⟩ := Segment.exists_digits_of_output_ne he
    have hne : ds ≠ [] := digits_ne_nil_of_mem_scan (p := p) (by simp [e.scan_eq, hds])
    refine ⟨ds, hexDigits (octalValue ds), hne, ?_, ?_, ?_, length_hexDigits_octalValue_le hne⟩
    · simp [hds, Segment.source, ofOctal_eq_ascii]
    · simp [hds, Segment.output, ofHex_eq_ascii]
    · rw [← octalValue_eq]
      exact writes_hexDigits _
  · have hall := length_outputs_le_of_scan (p := p) (List.append_nil _).symm
    rwa [flatMap_source_scan] at hall

/-- Leading zeros go, and eight octal digits become six hexadecimal ones. -/
example : convert "\\o\x7b00000000\x7d\\o\x7b77777777\x7d".toList =
    "\\x\x7b0\x7d\\x\x7bffffff\x7d".toList := by
  decide +kernel

end RuleRegex
