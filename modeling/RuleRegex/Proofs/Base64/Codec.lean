import Mathlib.Data.List.TakeWhile
import RuleRegex.Base64

/-!
# Reading what is written in Base64

Bytes are written as six-bit digits, three bytes as four digits, and a last group of one or two bytes
has zeros for the bits it lacks and padding for the digits. The reader finds the digits of every group,
whatever has been read before, and drops the zeros.

## Main definitions

* `Base64.sextets` — the six-bit digits of bytes.
-/

namespace RuleRegex

namespace Base64

def sextetAt (n place : Nat) : Fin 64 := ⟨n / place % 64, Nat.mod_lt _ (Nat.succ_pos 63)⟩

def sextets : List UInt8 → List (Fin 64)
  | [] => []
  | [a] =>
    let n := a.toNat * 0x10000
    [sextetAt n 0x40000, sextetAt n 0x1000]
  | [a, b] =>
    let n := a.toNat * 0x10000 + b.toNat * 0x100
    [sextetAt n 0x40000, sextetAt n 0x1000, sextetAt n 0x40]
  | a :: b :: c :: rest =>
    let n := a.toNat * 0x10000 + b.toNat * 0x100 + c.toNat
    sextetAt n 0x40000 :: sextetAt n 0x1000 :: sextetAt n 0x40 :: sextetAt n 1 :: sextets rest

theorem val_sextetAt (n place : Nat) : (sextetAt n place).val = n / place % 64 := rfl

/-! ## Single digits -/

theorem digitValue?_digit : ∀ d : Fin 64, digitValue? (CodePoint.ofChar (digit d)) = some d := by
  decide

theorem digit_is_pad : ∀ d : Fin 64, (CodePoint.ofChar (digit d)).is '=' = false := by
  decide

theorem digit_lt : ∀ d : Fin 64, (CodePoint.ofChar (digit d)).val < 128 := by
  decide

theorem digits_cons_digit (count : Nat) (d : Fin 64) (rest : List CodePoint) :
    digits count 0 (CodePoint.ofChar (digit d) :: rest) =
      (digits (count + 1) 0 rest).map (d :: ·) := by
  rw [digits, digit_is_pad, digitValue?_digit]
  cases digits (count + 1) 0 rest <;> rfl

/-- Two digits and two signs of padding end a text. -/
theorem digits_two_pads {count : Nat} (h : count % 4 = 2) :
    digits count 0 [CodePoint.ofChar '=', CodePoint.ofChar '='] = .ok [] := by
  have hpad : (CodePoint.ofChar '=').is '=' = true := rfl
  simp [digits, hpad, h]

/-- Three digits and one sign of padding end a text. -/
theorem digits_one_pad {count : Nat} (h : count % 4 = 3) :
    digits count 0 [CodePoint.ofChar '='] = .ok [] := by
  have hpad : (CodePoint.ofChar '=').is '=' = true := rfl
  simp [digits, hpad, h]

/-! ## Groups -/

/-- The characters of bytes are their digits and padding, and are read as these digits. -/
theorem digits_encode (data : List UInt8) {count : Nat} (h : count % 4 = 0) :
    digits count 0 ((encode data).map CodePoint.ofChar) = .ok (sextets data) := by
  induction data using sextets.induct generalizing count with
  | case1 => simp [encode, digits, sextets, h]
  | case2 a =>
    simp only [encode, digitAt, List.map_cons, List.map_nil, digits_cons_digit]
    rw [digits_two_pads (by omega)]
    rfl
  | case3 a b =>
    simp only [encode, digitAt, List.map_cons, List.map_nil, digits_cons_digit]
    rw [digits_one_pad (by omega)]
    rfl
  | case4 a b c rest ih =>
    simp only [encode, digitAt, List.map_cons, digits_cons_digit]
    rw [ih (by omega)]
    rfl

theorem ofNat_eq_of_mod {n : Nat} {b : UInt8} (h : n % 256 = b.toNat) : UInt8.ofNat n = b := by
  apply UInt8.toNat.inj
  rw [UInt8.toNat_ofNat', h]

/-- The bytes of the digits of bytes. -/
theorem bytes_sextets (data : List UInt8) : bytes (sextets data) = data := by
  induction data using sextets.induct with
  | case1 => rfl
  | case2 a =>
    have ha := a.toNat_lt
    have hfirst : UInt8.ofNat (a.toNat * 0x10000 / 0x40000 % 64 * 4 +
        a.toNat * 0x10000 / 0x1000 % 64 / 16) = a := ofNat_eq_of_mod (by omega)
    simp only [sextets, bytes, val_sextetAt, hfirst]
  | case3 a b =>
    have ha := a.toNat_lt
    have hb := b.toNat_lt
    simp only [sextets, bytes, val_sextetAt, List.cons.injEq, and_true]
    refine ⟨ofNat_eq_of_mod ?_, ofNat_eq_of_mod ?_⟩
    all_goals omega
  | case4 a b c rest ih =>
    have ha := a.toNat_lt
    have hb := b.toNat_lt
    have hc := c.toNat_lt
    simp only [sextets, bytes, val_sextetAt, ih, List.cons.injEq, and_true]
    refine ⟨ofNat_eq_of_mod ?_, ofNat_eq_of_mod ?_, ofNat_eq_of_mod ?_⟩
    all_goals omega

/-! ## Whole texts -/

theorem eq_pad_or_digit_of_mem_encode {data : List UInt8} {ch : Char} (h : ch ∈ encode data) :
    ch = '=' ∨ ∃ d, ch = digit d := by
  induction data using sextets.induct with
  | case1 => simp [encode] at h
  | case2 a | case3 a b =>
    simp only [encode, digitAt, List.mem_cons, List.not_mem_nil, or_false] at h
    grind
  | case4 a b c rest ih =>
    simp only [encode, digitAt, List.mem_cons] at h
    grind

theorem beyondAscii?_encode (data : List UInt8) :
    beyondAscii? ((encode data).map CodePoint.ofChar) = none := by
  have hall : ∀ p ∈ (encode data).map CodePoint.ofChar, decide (p.val < 128) = true := by
    intro p hp
    obtain ⟨ch, hch, rfl⟩ := List.mem_map.1 hp
    rcases eq_pad_or_digit_of_mem_encode hch with rfl | ⟨d, rfl⟩
    · decide
    · exact decide_eq_true (digit_lt d)
  rw [beyondAscii?, List.dropWhile_eq_nil_iff.2 hall]

/-- Padding never comes first. -/
theorem head?_encode (data : List UInt8) :
    (((encode data).map CodePoint.ofChar).head?.map (·.is '=')).getD false = false := by
  cases data using sextets.fun_cases with
  | case1 => rfl
  | case2 a | case3 a b | case4 a b c rest =>
    simp only [encode, digitAt, List.map_cons, List.head?_cons, Option.map_some, Option.getD_some,
      digit_is_pad]

/-- **What is written is read as the bytes it was written from.** -/
theorem decode_encode (data : List UInt8) :
    decode ((encode data).map CodePoint.ofChar) = .ok data := by
  rw [decode, beyondAscii?_encode, head?_encode, digits_encode data rfl]
  simp only [Bool.false_eq_true, if_false, Except.map, bytes_sextets]

end Base64

end RuleRegex
