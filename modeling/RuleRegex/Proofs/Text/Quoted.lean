import RuleRegex.Proofs.Text.Hex
import RuleRegex.Text.Quoted

/-!
# Reading back quoted bytes

Bytes are shown in printable ASCII characters, and they are read back from how they are shown without the
quotes around it: which quote is escaped depends on all the bytes, but an escaped quote is read like any
other escaped character.

## Main definitions

* `Quoted.unescape` — the bytes that a quoted text stands for.
-/

namespace RuleRegex

namespace Quoted

def hexByte (high low : Char) : UInt8 :=
  UInt8.ofNat (16 * (Hex.digitValue? high).getD 0 + (Hex.digitValue? low).getD 0)

/-- The byte of a character after a backslash that has no digits behind it: a blank that has a letter, or
else the character itself. -/
def escapedByte (c : Char) : UInt8 :=
  if c = 't' then 9 else if c = 'n' then 10 else if c = 'r' then 13 else UInt8.ofNat c.toNat

/-- The bytes that a text stands for, which is given without the quotes around it. -/
def unescape : List Char → List UInt8
  | '\\' :: 'x' :: high :: low :: rest => hexByte high low :: unescape rest
  | '\\' :: c :: rest => escapedByte c :: unescape rest
  | c :: rest => UInt8.ofNat c.toNat :: unescape rest
  | [] => []

variable {quote c : Char} {b : UInt8}

theorem unescape_hexByte (high low : Char) (rest : List Char) :
    unescape ('\\' :: 'x' :: high :: low :: rest) = hexByte high low :: unescape rest := by
  rw [unescape]

theorem unescape_escaped (hc : c ≠ 'x') (rest : List Char) :
    unescape ('\\' :: c :: rest) = escapedByte c :: unescape rest := by
  rw [unescape]
  simp [hc]

theorem unescape_plain (hc : c ≠ '\\') (rest : List Char) :
    unescape (c :: rest) = UInt8.ofNat c.toNat :: unescape rest := by
  rw [unescape.eq_def]
  split <;> simp_all

theorem hexByte_digits (b : UInt8) :
    hexByte (Hex.digit (b.toNat / 16)) (Hex.digit (b.toNat % 16)) = b := by
  have hb := b.toNat_lt
  have hhigh : b.toNat / 16 < 16 := by omega
  have hlow : b.toNat % 16 < 16 := by omega
  rw [hexByte, Hex.digitValue?_digit hhigh, Hex.digitValue?_digit hlow, Option.getD_some,
    Option.getD_some, Nat.div_add_mod, UInt8.ofNat_toNat]

theorem quoteFor_cases (hasSingle hasDouble : Bool) :
    quoteFor hasSingle hasDouble = '\'' ∨ quoteFor hasSingle hasDouble = '"' := by
  cases hasSingle <;> cases hasDouble <;> decide

/-- A byte is shown as itself, or a backslash and a character, or a backslash and two digits. -/
inductive Shown (b : UInt8) : List Char → Prop
  | plain {c : Char} (hc : c ≠ '\\') (hb : UInt8.ofNat c.toNat = b) : Shown b [c]
  | escaped {c : Char} (hc : c ≠ 'x') (hb : escapedByte c = b) : Shown b ['\\', c]
  | digits : Shown b ('\\' :: 'x' :: Hex.encodeByte b)

theorem ofNat_toNat_char (b : UInt8) : UInt8.ofNat (Char.ofNat b.toNat).toNat = b := by
  have h : ∀ n : Fin 256, (Char.ofNat n.val).toNat = n.val := by decide +kernel
  rw [h ⟨b.toNat, b.toNat_lt⟩, UInt8.ofNat_toNat]

/-- Every byte is shown in one of three ways. -/
theorem shown_byte (hquote : quote = '\'' ∨ quote = '"') (b : UInt8) : Shown b (byte quote b) := by
  have hb := ofNat_toNat_char b
  simp only [byte, short?]
  generalize Char.ofNat b.toNat = c at hb
  split
  · next h =>
    subst h
    rcases hquote with rfl | rfl
    · exact .escaped (by decide) hb
    · exact .escaped (by decide) hb
  split
  · next h => exact .escaped (by decide) (by rw [← hb, h]; rfl)
  split
  · next h => exact .escaped (by decide) (by rw [← hb, h]; rfl)
  split
  · next h => exact .escaped (by decide) (by rw [← hb, h]; rfl)
  split
  · next h => exact .escaped (by decide) (by rw [← hb, h]; rfl)
  · next hslash _ _ _ =>
    rw [Option.getD_none]
    split
    · exact .digits
    · exact .plain hslash hb

/-- What shows a byte is read back as that byte, whatever follows. -/
theorem Shown.unescape_append {shown : List Char} (h : Shown b shown) (rest : List Char) :
    unescape (shown ++ rest) = b :: unescape rest := by
  cases h with
  | plain hc hb => rw [List.singleton_append, unescape_plain hc, hb]
  | escaped hc hb => rw [List.cons_append, List.singleton_append, unescape_escaped hc, hb]
  | digits => exact (unescape_hexByte _ _ rest).trans (by rw [hexByte_digits])

/-- **Bytes are read back from how they are shown.** -/
theorem unescape_bytes (bs : List UInt8) : unescape (bytes bs) = bs := by
  have hquote := quoteFor_cases (bs.contains 39) (bs.contains 34)
  rw [bytes]
  generalize quoteFor (bs.contains 39) (bs.contains 34) = quote at hquote
  induction bs with
  | nil => rfl
  | cons b bs ih => rw [List.flatMap_cons, (shown_byte hquote b).unescape_append, ih]

/-- Different bytes are shown differently. -/
theorem bytes_injective : Function.Injective bytes :=
  Function.LeftInverse.injective unescape_bytes

/-- Every byte is shown in printable characters, whichever quote is escaped. -/
theorem printable_byte :
    ∀ n : Fin 256, (byte '\'' (UInt8.ofNat n)).all (fun c => 32 ≤ c.toNat ∧ c.toNat < 127) = true ∧
      (byte '"' (UInt8.ofNat n)).all (fun c => 32 ≤ c.toNat ∧ c.toNat < 127) = true := by
  decide +kernel

theorem printable_of_mem_byte (hquote : quote = '\'' ∨ quote = '"') (h : c ∈ byte quote b) :
    32 ≤ c.toNat ∧ c.toNat < 127 := by
  obtain ⟨hsingle, hdouble⟩ := printable_byte ⟨b.toNat, b.toNat_lt⟩
  rw [UInt8.ofNat_toNat] at hsingle hdouble
  rcases hquote with rfl | rfl
  · exact of_decide_eq_true (List.all_eq_true.1 hsingle c h)
  · exact of_decide_eq_true (List.all_eq_true.1 hdouble c h)

/-- **Bytes are shown in printable ASCII characters.** -/
theorem printable_of_mem_bytes {bs : List UInt8} (h : c ∈ bytes bs) : 32 ≤ c.toNat ∧ c.toNat < 127 := by
  obtain ⟨b, -, hc⟩ := List.mem_flatMap.1 h
  exact printable_of_mem_byte (quoteFor_cases _ _) hc

end Quoted

end RuleRegex
