import Mathlib.Tactic.Ring
import RuleRegex.Proofs.Text.Transcoding
import RuleRegex.Text.Utf8

/-!
# UTF-8 as a transcoding

ASCII symbols take one byte each, and no other byte is below `0x80`. So a character that is begun and
not completed ends where an ASCII byte stands, and both encoding and decoding are transcodings.

## Main definitions

* `Utf8.Valid` — bytes that are the bytes of characters.
-/

namespace RuleRegex

namespace Utf8

open Alphabet

/-! ## Encoding -/

theorem utf8EncodeChar_ofAscii (i : Fin 128) :
    String.utf8EncodeChar (ofAscii i) = [ofAscii (α := UInt8) i] := by
  revert i
  decide

/-- The bytes of a wide character are wide. -/
theorem wide_of_mem_utf8EncodeChar {c : Char} (hc : Wide c) {b : UInt8}
    (hb : b ∈ String.utf8EncodeChar c) : Wide b := by
  have hv : 128 ≤ c.val.toNat := hc
  simp only [String.utf8EncodeChar] at hb
  show 128 ≤ b.toNat
  split at hb
  · omega
  split at hb
  · simp only [List.mem_cons, List.not_mem_nil, or_false] at hb
    rcases hb with rfl | rfl <;> simp only [UInt8.toNat_ofNat'] <;> omega
  split at hb <;> simp only [List.mem_cons, List.not_mem_nil, or_false] at hb
  · rcases hb with rfl | rfl | rfl <;> simp only [UInt8.toNat_ofNat'] <;> omega
  · rcases hb with rfl | rfl | rfl | rfl <;> simp only [UInt8.toNat_ofNat'] <;> omega

/-- Encoding keeps ASCII symbols. -/
theorem transcoding_encode : Transcoding encode where
  nil := rfl
  split u i x := by
    rw [encode, encode, encode, List.flatMap_append, List.flatMap_cons, utf8EncodeChar_ofAscii]
    rfl
  wide u hu b hb := by
    obtain ⟨c, hc, hb⟩ := List.mem_flatMap.1 hb
    exact wide_of_mem_utf8EncodeChar (hu c hc) hb
  ne_nil u _ hne h := by
    obtain ⟨c, u, rfl⟩ := List.exists_cons_of_ne_nil hne
    have hc := congrArg List.length (List.append_eq_nil_iff.1 h).1
    have hpos := c.utf8Size_pos
    rw [String.length_utf8EncodeChar, List.length_nil] at hc
    omega

/-! ## Decoding -/

theorem suffix_continued (more number low high : Nat) (x : List UInt8) :
    (continued more number low high x).2 <:+ x := by
  induction more generalizing number low high x with
  | zero => exact List.suffix_refl x
  | succ more ih =>
    cases x with
    | nil => exact List.suffix_refl []
    | cons b x =>
      unfold continued
      split
      · exact (ih _ _ _ x).trans (List.suffix_cons b x)
      · exact List.suffix_refl _

theorem suffix_next (b : UInt8) (x : List UInt8) : (next b x).2 <:+ x := by
  unfold next
  split
  · exact List.suffix_refl x
  · next l _ =>
    have h := suffix_continued l.more l.bits l.low l.high x
    split <;> simp_all

/-- A sequence of several bytes goes on with bytes beyond ASCII. -/
theorem lead?_low {n : Nat} : ∀ l ∈ lead? n, l.more ≠ 0 → 0x80 ≤ l.low := by
  unfold lead?
  split_ifs <;> simp

theorem toNat_ofAscii (i : Fin 128) : (ofAscii (α := UInt8) i).toNat = i.val :=
  code_ofAscii (α := UInt8) i

theorem next_ofAscii (i : Fin 128) (x : List UInt8) :
    next (ofAscii i) x = (ofAscii (α := Char) i, x) := by
  have hl : lead? i.val = some ⟨i.val, 0, 0, 0⟩ := if_pos i.isLt
  rw [next, toNat_ofAscii, hl]
  rfl

/-- An ASCII byte ends what comes before it. -/
theorem continued_append {more number low high : Nat} (h : more ≠ 0 → 0x80 ≤ low) (x : List UInt8)
    (i : Fin 128) (y : List UInt8) :
    continued more number low high (x ++ ofAscii i :: y) =
      ((continued more number low high x).1,
        (continued more number low high x).2 ++ ofAscii i :: y) := by
  induction more generalizing number low high x with
  | zero => rfl
  | succ more ih =>
    have hlow : 0x80 ≤ low := h (Nat.succ_ne_zero more)
    cases x with
    | nil =>
      have hlt := i.isLt
      have hn : ¬(low ≤ (ofAscii (α := UInt8) i).toNat ∧ (ofAscii (α := UInt8) i).toNat ≤ high) := by
        rw [toNat_ofAscii]
        omega
      simp only [List.nil_append, continued, if_neg hn]
    | cons b x =>
      rw [List.cons_append, continued, continued]
      split
      · exact ih (fun _ => Nat.le_refl _) x
      · rfl

/-- An ASCII byte ends the sequence before it. -/
theorem next_append (b : UInt8) (x : List UInt8) (i : Fin 128) (y : List UInt8) :
    next b (x ++ ofAscii i :: y) = ((next b x).1, (next b x).2 ++ ofAscii i :: y) := by
  unfold next
  split
  · rfl
  · next l hl =>
    rw [continued_append (lead?_low l hl)]
    cases hc : continued l.more l.bits l.low l.high x with
    | mk number rest => cases number <;> rfl

/-! ## Wide characters -/

/-- The bytes that follow add their six low bits each to the number. -/
theorem continued_bounds {more number low high n : Nat} {x : List UInt8}
    (h : (continued more number low high x).1 = some n) :
    number * 64 ^ more ≤ n ∧ n < (number + 1) * 64 ^ more := by
  induction more generalizing number low high x with
  | zero =>
    obtain rfl := Option.some.inj h
    simp
  | succ more ih =>
    cases x with
    | nil => cases h
    | cons b x =>
      rw [continued] at h
      split at h
      · obtain ⟨hl, hh⟩ := ih h
        have hb : b.toNat % 64 < 64 := Nat.mod_lt _ (by decide)
        have hp : 64 ^ (more + 1) = 64 * 64 ^ more := Nat.pow_succ'
        constructor
        · calc number * 64 ^ (more + 1)
              = 64 * number * 64 ^ more := by rw [hp]; ring
            _ ≤ (64 * number + b.toNat % 64) * 64 ^ more := Nat.mul_le_mul_right _ (by omega)
            _ ≤ n := hl
        · calc n < (64 * number + b.toNat % 64 + 1) * 64 ^ more := hh
            _ ≤ 64 * (number + 1) * 64 ^ more := Nat.mul_le_mul_right _ (by omega)
            _ = (number + 1) * 64 ^ (more + 1) := by rw [hp]; ring
      · cases h

/-- A first byte beyond ASCII and a byte that fits it leave room for wide characters only. -/
theorem lead?_range {b : Nat} (hb : 128 ≤ b) : ∀ l ∈ lead? b, l.more ≠ 0 ∧
    ∀ c n, l.low ≤ c → c ≤ l.high → (64 * l.bits + c % 64) * 64 ^ (l.more - 1) ≤ n →
      n < (64 * l.bits + c % 64 + 1) * 64 ^ (l.more - 1) → 128 ≤ n ∧ n.isValidChar := by
  unfold lead? Nat.isValidChar
  split_ifs <;> simp <;> omega

theorem wide_ofNat {n : Nat} (hn : 128 ≤ n) (hv : n.isValidChar) : Wide (Char.ofNat n) := by
  rw [Char.ofNat, dif_pos hv]
  exact hn

/-- A wide byte is read as the start of a wide character. -/
theorem wide_next {b : UInt8} (hb : Wide b) (x : List UInt8) : Wide (next b x).1 := by
  have hr : Wide '\ufffd' := by decide
  unfold next
  split
  · exact hr
  · next l hl =>
    obtain ⟨hm, hrange⟩ := lead?_range hb l hl
    obtain ⟨k, hk⟩ := Nat.exists_eq_succ_of_ne_zero hm
    split
    · next n rest hc =>
      have hc := congrArg Prod.fst hc
      cases x with
      | nil =>
        rw [hk] at hc
        cases hc
      | cons c x =>
        rw [hk, continued] at hc
        split at hc
        · next hfit =>
          obtain ⟨hlow, hhigh⟩ := continued_bounds hc
          rw [hk] at hrange
          obtain ⟨hn, hv⟩ := hrange c.toNat n hfit.1 hfit.2 hlow hhigh
          exact wide_ofNat hn hv
        · cases hc
    · exact hr

/-- Decoding keeps ASCII symbols, also where bytes are malformed. -/
theorem transcoding_decode : Transcoding decode where
  nil := by rw [decode]
  split u i x := by
    induction u using decode.induct with
    | case1 =>
      have hd : decode (ofAscii i :: x) = ofAscii i :: decode x := by rw [decode, next_ofAscii]
      rw [List.nil_append, hd, decode, List.nil_append]
    | case2 b u ih =>
      rw [List.cons_append, decode, next_append, ih, decode]
      rfl
  wide u hu := by
    induction u using decode.induct with
    | case1 =>
      intro c hc
      rw [decode] at hc
      cases hc
    | case2 b u ih =>
      simp only [List.mem_cons, forall_eq_or_imp] at hu
      rw [decode, List.forall_mem_cons]
      exact ⟨wide_next hu.1 u, ih fun a ha => hu.2 a ((suffix_next b u).mem ha)⟩
  ne_nil u _ hne h := by
    obtain ⟨b, u, rfl⟩ := List.exists_cons_of_ne_nil hne
    rw [decode] at h
    cases h

/-! ## Validity -/

/-- Bytes that are the bytes of characters. -/
def Valid (bytes : List UInt8) : Prop := ∃ text, encode text = bytes

theorem valid_append {x y : List UInt8} (hx : Valid x) (hy : Valid y) : Valid (x ++ y) := by
  obtain ⟨s, rfl⟩ := hx
  obtain ⟨t, rfl⟩ := hy
  exact ⟨s ++ t, List.flatMap_append⟩

/-- An ASCII byte in the bytes of a text is one of its characters. -/
theorem exists_of_encode_eq {text : List Char} {x y : List UInt8} {i : Fin 128}
    (h : encode text = x ++ ofAscii i :: y) :
    ∃ s t, text = s ++ ofAscii i :: t ∧ encode s = x ∧ encode t = y := by
  induction text generalizing x with
  | nil => simp [encode] at h
  | cons c text ih =>
    rw [encode, List.flatMap_cons] at h
    rcases List.append_eq_append_iff.1 h with ⟨v, rfl, hv⟩ | ⟨v, hc, hv⟩
    · obtain ⟨s, t, rfl, rfl, rfl⟩ := ih hv
      exact ⟨c :: s, t, rfl, rfl, rfl⟩
    cases v with
    | nil =>
      obtain ⟨s, t, rfl, hs, rfl⟩ := ih (x := []) hv.symm
      refine ⟨c :: s, t, rfl, ?_, rfl⟩
      rw [encode, List.flatMap_cons, hc, List.append_nil]
      exact (congrArg (x ++ ·) hs).trans (List.append_nil x)
    | cons b v =>
      obtain ⟨rfl, rfl⟩ := List.cons.inj hv
      have hnarrow : ¬ Wide c := fun hw =>
        not_wide_ofAscii i (wide_of_mem_utf8EncodeChar hw (hc ▸ by simp))
      obtain ⟨j, rfl⟩ := exists_ofAscii hnarrow
      rw [utf8EncodeChar_ofAscii] at hc
      cases x with
      | nil =>
        obtain ⟨hij, rfl⟩ := List.cons.inj hc
        obtain rfl := ofAscii_injective hij
        exact ⟨[], text, rfl, rfl, rfl⟩
      | cons a x => simp at hc

/-- Valid bytes can be cut before every ASCII byte. -/
theorem valid_append_iff {x y : List UInt8} (hy : Narrow y) :
    Valid (x ++ y) ↔ Valid x ∧ Valid y := by
  constructor
  · rintro ⟨text, h⟩
    rcases hy.eq_nil_or with rfl | ⟨i, y, rfl⟩
    · rw [List.append_nil] at h
      exact ⟨⟨text, h⟩, [], rfl⟩
    · obtain ⟨s, t, rfl, rfl, rfl⟩ := exists_of_encode_eq h
      exact ⟨⟨s, rfl⟩, ofAscii i :: t, transcoding_encode.cons i t⟩
  · rintro ⟨hx, hy⟩
    exact valid_append hx hy

theorem encode_spell (w : List (Fin 128)) : encode (spell w) = spell w := by
  simpa [transcoding_encode.nil] using transcoding_encode.spell_append w []

theorem valid_spell_append_iff {w : List (Fin 128)} {y : List UInt8} :
    Valid (spell w ++ y) ↔ Valid y := by
  constructor
  · induction w with
    | nil => exact id
    | cons i w ih =>
      rintro ⟨text, h⟩
      obtain ⟨_, t, _, _, ht⟩ := exists_of_encode_eq (x := []) h
      exact ih ⟨t, ht⟩
  · exact valid_append ⟨spell w, encode_spell w⟩

end Utf8

end RuleRegex
