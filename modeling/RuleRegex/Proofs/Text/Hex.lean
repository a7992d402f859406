import RuleRegex.Text.Hex

/-!
# Reading back hexadecimal digits

Bytes are read back from their digits, two for each byte.
-/

namespace RuleRegex

namespace Hex

/-- What the reader asks of a digit. -/
theorem digit_spec :
    ∀ n : Fin 16, digitValue? (digit n) = some n.val ∧ isBlank (digit n) = false ∧
      32 ≤ (digit n).toNat ∧ (digit n).toNat < 127 := by
  decide

theorem digitValue?_digit {n : Nat} (h : n < 16) : digitValue? (digit n) = some n :=
  (digit_spec ⟨n, h⟩).1

theorem isBlank_digit {n : Nat} (h : n < 16) : isBlank (digit n) = false :=
  (digit_spec ⟨n, h⟩).2.1

theorem decodePairs_append (b : UInt8) (rest : List Char) :
    decodePairs (encodeByte b ++ rest) = (decodePairs rest).map (b :: ·) := by
  have hb := b.toNat_lt
  have hhigh : b.toNat / 16 < 16 := by omega
  have hlow : b.toNat % 16 < 16 := by omega
  have hvalue : 16 * (b.toNat / 16) + b.toNat % 16 = b.toNat := by omega
  simp only [encodeByte, List.cons_append, List.nil_append, decodePairs, isBlank_digit hhigh,
    digitValue?_digit hhigh, digitValue?_digit hlow, hvalue, UInt8.ofNat_toNat]
  cases decodePairs rest <;> rfl

theorem decodePairs_encode (bytes : List UInt8) : decodePairs (encode bytes) = .ok bytes := by
  induction bytes with
  | nil => rfl
  | cons b bytes ih =>
    rw [encode, List.flatMap_cons, decodePairs_append, ← encode, ih]
    rfl

theorem exists_digit_of_mem_encode {bytes : List UInt8} {c : Char} (h : c ∈ encode bytes) :
    ∃ n : Fin 16, c = digit n := by
  obtain ⟨b, -, hc⟩ := List.mem_flatMap.1 h
  have hb := b.toNat_lt
  simp only [encodeByte, List.mem_cons, List.not_mem_nil, or_false] at hc
  rcases hc with rfl | rfl
  · exact ⟨⟨b.toNat / 16, by omega⟩, rfl⟩
  · exact ⟨⟨b.toNat % 16, by omega⟩, rfl⟩

theorem printable_of_mem_encode {bytes : List UInt8} {c : Char} (h : c ∈ encode bytes) :
    32 ≤ c.toNat ∧ c.toNat < 127 := by
  obtain ⟨n, rfl⟩ := exists_digit_of_mem_encode h
  exact (digit_spec n).2.2

/-- **Bytes are read back from their digits.** -/
theorem decode_encode (bytes : List UInt8) : decode (encode bytes) = .ok bytes := by
  have hascii : (encode bytes).findIdx? (128 ≤ ·.toNat) = none := by
    rw [List.findIdx?_eq_none_iff]
    intro c hc
    have hlt := (printable_of_mem_encode hc).2
    exact decide_eq_false (by omega)
  rw [decode, hascii, decodePairs_encode]
  rfl

end Hex

end RuleRegex
