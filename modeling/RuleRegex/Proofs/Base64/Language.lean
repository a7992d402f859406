import Mathlib.Algebra.Group.Nat.Defs
import RuleRegex.Proofs.Base64.Codec

/-!
# The texts that are read as Base64

A text is read exactly if it is digits and then padding, and the padding is what completes the last group
of four. After whole groups there may be any padding, unless there is nothing before it. What is read has
all the bits of the digits but those that fill no byte, so no character is skipped.

## Main definitions

* `Base64.written` — digits and padding as a text.
* `Base64.Completed` — how much padding completes a number of digits, and how many bits are left over.
* `Base64.digitBits`, `Base64.byteBits` — the bits of digits and of bytes, one after the other.
-/

namespace RuleRegex

namespace Base64

/-! ## Digits and padding -/

/-- Digits and then signs of padding, as a text. -/
def written (ds : List (Fin 64)) (pads : Nat) : List CodePoint :=
  ds.map (fun d => CodePoint.ofChar (digit d)) ++ List.replicate pads (CodePoint.ofChar '=')

/-- The digits are the letters, large and small, the decimal digits and two signs more. -/
example : (List.finRange 64).map digit =
    "ABCDEFGHIJKLMNOPQRSTUVWXYZabcdefghijklmnopqrstuvwxyz0123456789+/".toList := by
  decide

/-- How many signs of padding complete so many digits, and how many bits of the digits are left over. -/
inductive Completed : Nat → Nat → Nat → Prop
  /-- Whole groups need no padding, but may have some behind them. -/
  | whole {count pads : Nat} (h : count % 4 = 0) (hpads : 0 < count ∨ pads = 0) : Completed count pads 0
  | two {count : Nat} (h : count % 4 = 2) : Completed count 2 4
  | three {count : Nat} (h : count % 4 = 3) : Completed count 1 2

theorem is_pad_iff {p : CodePoint} : p.is '=' = true ↔ p = CodePoint.ofChar '=' := by
  rw [CodePoint.is, beq_iff_eq]
  exact ⟨fun h => Fin.ext h, fun h => h ▸ rfl⟩

theorem digitValue?_eq_some_iff {p : CodePoint} {d : Fin 64} :
    digitValue? p = some d ↔ p = CodePoint.ofChar (digit d) := by
  constructor
  · intro h
    have hcode : ∀ d : Fin 64, (CodePoint.ofChar (digit d)).val =
        if d.val < 26 then 65 + d.val else if d.val < 52 then 71 + d.val
        else if d.val < 62 then d.val - 4 else if d.val = 62 then 43 else 47 := by decide
    apply Fin.ext
    rw [hcode]
    unfold digitValue? at h
    grind
  · rintro rfl
    exact digitValue?_digit d

theorem digit_ne_pad (d : Fin 64) : CodePoint.ofChar (digit d) ≠ CodePoint.ofChar '=' := by
  intro h
  have hpad := is_pad_iff.2 h
  rw [digit_is_pad] at hpad
  cases hpad

/-! ## What is still to come -/

/-- Whether the padding after so many digits lets the reader stop: it looks at nothing after whole groups,
and counts up to four otherwise. -/
def Closes (count pads : Nat) : Prop := count % 4 = 0 ∨ 2 ≤ count % 4 ∧ count % 4 + pads = 4

/-- A text completes what has been read if it is digits, of which there are none once padding has begun,
and padding that closes the last group together with what has been seen of it. -/
def Completes (count pads : Nat) (text : List CodePoint) (ds : List (Fin 64)) : Prop :=
  ∃ more, text = written ds more ∧ (0 < pads → ds = []) ∧ Closes (count + ds.length) (pads + more)

section Completes

variable {count pads : Nat} {p : CodePoint} {rest text : List CodePoint} {ds : List (Fin 64)}

/-- Nothing completes what has been read where the padding lets the reader stop. -/
theorem completes_nil_iff : Completes count pads [] ds ↔ ds = [] ∧ Closes count pads := by
  constructor
  · rintro ⟨more, h, -, hclose⟩
    obtain ⟨hds, hmore⟩ := List.append_eq_nil_iff.1 h.symm
    rw [List.map_eq_nil_iff] at hds
    rw [List.replicate_eq_nil_iff] at hmore
    subst hds hmore
    exact ⟨rfl, hclose⟩
  · rintro ⟨rfl, hclose⟩
    exact ⟨0, rfl, fun _ => rfl, hclose⟩

theorem completes_pad_iff :
    Completes count pads (CodePoint.ofChar '=' :: rest) ds ↔ Completes count (pads + 1) rest ds := by
  constructor
  · rintro ⟨more, h, -, hclose⟩
    cases ds with
    | nil =>
      cases more with
      | zero => cases h
      | succ more =>
        rw [← Nat.add_assoc, Nat.add_right_comm] at hclose
        exact ⟨more, (List.cons.inj h).2, fun _ => rfl, hclose⟩
    | cons d ds => exact absurd (List.cons.inj h).1.symm (digit_ne_pad d)
  · rintro ⟨more, rfl, hds, hclose⟩
    obtain rfl := hds (Nat.succ_pos pads)
    rw [Nat.add_right_comm, Nat.add_assoc] at hclose
    exact ⟨more + 1, rfl, fun _ => rfl, hclose⟩

/-- A digit is read on, unless padding has begun. -/
theorem completes_digit_iff {d : Fin 64} :
    Completes count pads (CodePoint.ofChar (digit d) :: rest) ds ↔
      pads = 0 ∧ ∃ ds', ds = d :: ds' ∧ Completes (count + 1) 0 rest ds' := by
  constructor
  · rintro ⟨more, h, hnone, hclose⟩
    cases ds with
    | nil =>
      cases more with
      | zero => cases h
      | succ more => exact absurd (List.cons.inj h).1 (digit_ne_pad d)
    | cons e ds =>
      obtain ⟨hde, hrest⟩ := List.cons.inj h
      have hsame : some d = some e := by rw [← digitValue?_digit d, ← digitValue?_digit e, hde]
      obtain rfl := Option.some.inj hsame
      obtain rfl : pads = 0 := by
        by_contra hpads
        cases hnone (Nat.pos_of_ne_zero hpads)
      rw [List.length_cons, Nat.add_comm ds.length, ← Nat.add_assoc] at hclose
      exact ⟨rfl, ds, rfl, more, hrest, fun h => absurd h (Nat.lt_irrefl 0), hclose⟩
  · rintro ⟨rfl, ds, rfl, more, rfl, -, hclose⟩
    rw [Nat.add_assoc, Nat.add_comm 1] at hclose
    exact ⟨more, rfl, fun h => absurd h (Nat.lt_irrefl 0), hclose⟩

/-- No other character stands in a text that is read. -/
theorem not_completes_of_stray (hpad : p.is '=' = false) (hdigit : digitValue? p = none) :
    ¬Completes count pads (p :: rest) ds := by
  rintro ⟨more, h, -⟩
  cases ds with
  | nil =>
    cases more with
    | zero => cases h
    | succ more =>
      rw [is_pad_iff.2 (List.cons.inj h).1] at hpad
      cases hpad
  | cons d ds =>
    rw [(List.cons.inj h).1, digitValue?_digit] at hdigit
    cases hdigit

/-- Nothing may follow the padding that closes a group. -/
theorem completes_closed_iff (h : 2 ≤ count % 4) (hpads : count % 4 + pads = 4) :
    Completes count pads text ds ↔ text = [] ∧ ds = [] := by
  constructor
  · rintro ⟨more, rfl, hds, hclose⟩
    obtain rfl := hds (by omega)
    obtain rfl : more = 0 := by
      rw [Closes, List.length_nil] at hclose
      omega
    exact ⟨rfl, rfl⟩
  · rintro ⟨rfl, rfl⟩
    exact completes_nil_iff.2 ⟨rfl, .inr ⟨h, hpads⟩⟩

/-- **The reader of digits takes what completes the digits and the padding that it has seen.** As long as
it goes on, the padding has not closed a group yet. -/
theorem digits_eq_ok_iff (h : 2 ≤ count % 4 → count % 4 + pads < 4) :
    digits count pads text = .ok ds ↔ Completes count pads text ds := by
  induction text generalizing count pads ds with
  | nil =>
    rw [completes_nil_iff, digits, Closes]
    split
    · grind
    · split <;> grind
  | cons p rest ih =>
    rw [digits]
    by_cases hpad : p.is '=' = true
    · obtain rfl := is_pad_iff.1 hpad
      rw [if_pos hpad, completes_pad_iff]
      split
      · next hlast =>
        rw [completes_closed_iff hlast.1 (by omega)]
        cases rest <;> simp [eq_comm]
      · next hmore => exact ih (by omega)
    · rw [if_neg hpad]
      cases hd : digitValue? p with
      | none => simp [not_completes_of_stray (Bool.eq_false_iff.2 hpad) hd]
      | some d =>
        obtain rfl := digitValue?_eq_some_iff.1 hd
        have hstart : 2 ≤ (count + 1) % 4 → (count + 1) % 4 + 0 < 4 := fun _ => by omega
        rw [completes_digit_iff]
        simp only [← ih hstart]
        by_cases hpads : 0 < pads
        · simp [hpads, Nat.ne_of_gt hpads]
        · obtain rfl : pads = 0 := by omega
          cases digits (count + 1) 0 rest <;> simp [eq_comm]

end Completes

/-! ## Bits -/

/-- The bits of a number below `2 ^ width`, the highest first. -/
def bits : Nat → Nat → List Bool
  | 0, _ => []
  | width + 1, n => bits width (n / 2) ++ [n % 2 == 1]

@[simp] theorem length_bits (width n : Nat) : (bits width n).length = width := by
  induction width generalizing n with
  | zero => rfl
  | succ width ih => rw [bits, List.length_append, ih, List.length_singleton]

/-- The bits of a number are those of its two parts. -/
theorem bits_append (v w m : Nat) {n : Nat} (h : n < 2 ^ w) :
    bits (v + w) (m * 2 ^ w + n) = bits v m ++ bits w n := by
  induction w generalizing n with
  | zero =>
    obtain rfl := Nat.lt_one_iff.1 h
    simp [bits]
  | succ w ih =>
    rw [Nat.pow_succ] at h ⊢
    have hdiv : (m * (2 ^ w * 2) + n) / 2 = m * 2 ^ w + n / 2 := by
      rw [← Nat.mul_assoc]
      omega
    have hmod : (m * (2 ^ w * 2) + n) % 2 = n % 2 := by
      rw [← Nat.mul_assoc]
      omega
    rw [← Nat.add_assoc, bits, bits, hdiv, hmod, ih (by omega), List.append_assoc]

theorem bits_split (v w n : Nat) : bits (v + w) n = bits v (n / 2 ^ w) ++ bits w (n % 2 ^ w) := by
  have h := bits_append v w (n / 2 ^ w) (Nat.mod_lt n (Nat.two_pow_pos w))
  rwa [Nat.mul_comm, Nat.div_add_mod] at h

theorem eq_of_bits_eq {width m n : Nat} (hm : m < 2 ^ width) (hn : n < 2 ^ width)
    (h : bits width m = bits width n) : m = n := by
  induction width generalizing m n with
  | zero => omega
  | succ width ih =>
    rw [Nat.pow_succ] at hm hn
    obtain ⟨hhigh, hlow⟩ := List.append_inj' h rfl
    have hdiv := ih (by omega) (by omega) hhigh
    have hmod : (m % 2 = 1) ↔ (n % 2 = 1) := by simpa using hlow
    omega

def digitBits (ds : List (Fin 64)) : List Bool := ds.flatMap fun d => bits 6 d.val

def byteBits (data : List UInt8) : List Bool := data.flatMap fun b => bits 8 b.toNat

theorem byteBits_cons (b : UInt8) (data : List UInt8) :
    byteBits (b :: data) = bits 8 b.toNat ++ byteBits data := rfl

theorem byteBits_injective : Function.Injective byteBits := by
  have hne (b : UInt8) (data : List UInt8) : byteBits (b :: data) ≠ [] := by
    intro h
    have hlen := congrArg List.length (List.append_eq_nil_iff.1 h).1
    rw [length_bits] at hlen
    cases hlen
  intro x y h
  induction x generalizing y with
  | nil =>
    cases y with
    | nil => rfl
    | cons b y => exact absurd h.symm (hne b y)
  | cons a x ih =>
    cases y with
    | nil => exact absurd h (hne a x)
    | cons b y =>
      rw [byteBits_cons, byteBits_cons] at h
      obtain ⟨hab, hxy⟩ := List.append_inj h (by rw [length_bits, length_bits])
      have hsame := eq_of_bits_eq a.toNat_lt b.toNat_lt hab
      rw [UInt8.toNat.inj hsame, ih hxy]

/-- A byte that is put together from two numbers has the bits of one before those of the other. -/
theorem bits_ofNat (v w : Nat) {m n : Nat} (h : v + w = 8) (hm : m < 2 ^ v) (hn : n < 2 ^ w) :
    bits 8 (UInt8.ofNat (m * 2 ^ w + n)).toNat = bits v m ++ bits w n := by
  have hlt : m * 2 ^ w + n < 256 :=
    calc m * 2 ^ w + n < (m + 1) * 2 ^ w := by rw [Nat.succ_mul]; omega
      _ ≤ 2 ^ v * 2 ^ w := Nat.mul_le_mul_right _ hm
      _ = 256 := by rw [← Nat.pow_add, h]
  rw [UInt8.toNat_ofNat', Nat.mod_eq_of_lt hlt, ← bits_append v w m hn, h]

/-- **The bytes of digits have the bits of the digits**, but for those that fill no byte. -/
theorem exists_digitBits_eq (ds : List (Fin 64)) :
    ∃ left, digitBits ds = byteBits (bytes ds) ++ left ∧ left.length = 6 * ds.length % 8 := by
  -- A digit goes to two bytes, its high bits to the one and its low bits to the other.
  have hfirst (a b : Fin 64) : bits 8 (UInt8.ofNat (a.val * 4 + b.val / 16)).toNat =
      bits 6 a.val ++ bits 2 (b.val / 16) := bits_ofNat 6 2 rfl a.isLt (by omega)
  have hsecond (b c : Fin 64) : bits 8 (UInt8.ofNat (b.val % 16 * 16 + c.val / 4)).toNat =
      bits 4 (b.val % 16) ++ bits 4 (c.val / 4) := bits_ofNat 4 4 rfl (by omega) (by omega)
  have hthird (c d : Fin 64) : bits 8 (UInt8.ofNat (c.val % 4 * 64 + d.val)).toNat =
      bits 2 (c.val % 4) ++ bits 6 d.val := bits_ofNat 2 6 rfl (by omega) d.isLt
  have hb (b : Fin 64) : bits 6 b.val = bits 2 (b.val / 16) ++ bits 4 (b.val % 16) :=
    bits_split 2 4 b.val
  have hc (c : Fin 64) : bits 6 c.val = bits 4 (c.val / 4) ++ bits 2 (c.val % 4) :=
    bits_split 4 2 c.val
  induction ds using bytes.induct with
  | case1 a b c d rest ih =>
    obtain ⟨left, hbits, hleft⟩ := ih
    refine ⟨left, ?_, by simp only [List.length_cons]; omega⟩
    simp only [digitBits, byteBits, bytes, List.flatMap_cons, hfirst, hsecond, hthird] at hbits ⊢
    rw [hbits, hb b, hc c]
    simp only [List.append_assoc]
  | case2 a b c =>
    refine ⟨bits 2 (c.val % 4), ?_, by simp⟩
    simp only [digitBits, byteBits, bytes, List.flatMap_cons, List.flatMap_nil, hfirst, hsecond]
    rw [hb b, hc c]
    simp only [List.append_assoc, List.append_nil]
  | case3 a b =>
    refine ⟨bits 4 (b.val % 16), ?_, by simp⟩
    simp only [digitBits, byteBits, bytes, List.flatMap_cons, List.flatMap_nil, hfirst]
    rw [hb b]
    simp only [List.append_assoc, List.append_nil]
  | case4 ds hfour hthree htwo =>
    rcases ds with _ | ⟨a, _ | ⟨b, _ | ⟨c, _ | ⟨d, rest⟩⟩⟩⟩
    · exact ⟨[], rfl, rfl⟩
    · exact ⟨bits 6 a.val, by simp [digitBits, byteBits, bytes], by simp⟩
    · exact absurd rfl (htwo a b)
    · exact absurd rfl (hthree a b c)
    · exact absurd rfl (hfour a b c d rest)

/-! ## Whole texts -/

theorem val_lt_of_mem_written {ds : List (Fin 64)} {pads : Nat} :
    ∀ p ∈ written ds pads, p.val < 128 := by
  intro p hp
  rcases List.mem_append.1 hp with hp | hp
  · obtain ⟨d, -, rfl⟩ := List.mem_map.1 hp
    exact digit_lt d
  · rw [List.eq_of_mem_replicate hp]
    decide

theorem beyondAscii?_eq_none_iff {text : List CodePoint} :
    beyondAscii? text = none ↔ ∀ p ∈ text, p.val < 128 := by
  rw [beyondAscii?]
  split
  · next h => simpa using List.dropWhile_eq_nil_iff.1 h
  · next p rest h =>
    refine iff_of_false (by simp) fun hall => ?_
    rw [List.dropWhile_eq_nil_iff.2 (by simpa using hall)] at h
    cases h

/-- A character beyond ASCII is a fault of its own. -/
theorem decode_of_beyond {text : List CodePoint} {p : CodePoint} (hp : p ∈ text) (h : 128 ≤ p.val) :
    ∃ first position count, decode text = .error (.beyondAscii first position count) := by
  have hsome : beyondAscii? text ≠ none := fun hnone =>
    Nat.not_lt.2 h (beyondAscii?_eq_none_iff.1 hnone p hp)
  rw [decode]
  rw [beyondAscii?] at hsome ⊢
  split at hsome
  · exact absurd rfl hsome
  · exact ⟨_, _, _, rfl⟩

theorem head?_written {ds : List (Fin 64)} {pads : Nat} :
    ((written ds pads).head?.map (·.is '=')).getD false = false ↔ ds = [] → pads = 0 := by
  cases ds with
  | nil =>
    cases pads with
    | zero => simp [written]
    | succ pads =>
      have hpad : (CodePoint.ofChar '=').is '=' = true := rfl
      simp [written, List.replicate_succ, hpad]
  | cons d ds => simp [written, digit_is_pad]

/-- Padding completes digits exactly if the reader stops behind it, and there is none without digits. -/
theorem completed_iff {count pads : Nat} :
    (∃ leftover, Completed count pads leftover) ↔ Closes count pads ∧ (count = 0 → pads = 0) := by
  constructor
  · rintro ⟨leftover, h⟩
    cases h with
    | whole h hpads => exact ⟨.inl h, by omega⟩
    | two h => exact ⟨.inr ⟨by omega, by omega⟩, by omega⟩
    | three h => exact ⟨.inr ⟨by omega, by omega⟩, by omega⟩
  · rintro ⟨h | ⟨hgroup, hpads⟩, hempty⟩
    · exact ⟨0, .whole h (by omega)⟩
    · obtain ⟨h, rfl⟩ | ⟨h, rfl⟩ : count % 4 = 2 ∧ pads = 2 ∨ count % 4 = 3 ∧ pads = 1 := by omega
      · exact ⟨4, .two h⟩
      · exact ⟨2, .three h⟩

/-- The bits that are left over are those beyond the last whole byte. -/
theorem Completed.leftover_eq {count pads leftover : Nat} (h : Completed count pads leftover) :
    leftover = 6 * count % 8 := by
  cases h <;> omega

/-- **What is read is completed digits**, and it is read as their bytes. -/
theorem decode_eq_ok_iff_written {text : List CodePoint} {data : List UInt8} :
    decode text = .ok data ↔ ∃ ds pads leftover, text = written ds pads ∧
      Completed ds.length pads leftover ∧ bytes ds = data := by
  have hzero : 2 ≤ 0 % 4 → 0 % 4 + 0 < 4 := by omega
  constructor
  · intro h
    rw [decode] at h
    split at h
    · cases h
    split at h
    · cases h
    next hhead =>
    cases hds : digits 0 0 text with
    | error f =>
      rw [hds] at h
      cases h
    | ok ds =>
      rw [hds] at h
      obtain ⟨pads, rfl, -, hclose⟩ := (digits_eq_ok_iff hzero).1 hds
      have hpads := head?_written.1 (Bool.eq_false_iff.2 hhead)
      rw [Nat.zero_add, Nat.zero_add] at hclose
      obtain ⟨leftover, hcompleted⟩ := completed_iff.2
        ⟨hclose, fun hnone => hpads (List.length_eq_zero_iff.1 hnone)⟩
      exact ⟨ds, pads, leftover, rfl, hcompleted, Except.ok.inj h⟩
  · rintro ⟨ds, pads, leftover, rfl, hcompleted, rfl⟩
    obtain ⟨hclose, hpads⟩ := completed_iff.1 ⟨leftover, hcompleted⟩
    have hds : digits 0 0 (written ds pads) = .ok ds := by
      rw [digits_eq_ok_iff hzero]
      exact ⟨pads, rfl, fun h => absurd h (Nat.lt_irrefl 0), by simpa using hclose⟩
    have hhead := head?_written.2 fun hnone => hpads (List.length_eq_zero_iff.2 hnone)
    rw [decode, beyondAscii?_eq_none_iff.2 val_lt_of_mem_written, hhead, hds]
    rfl

/-- **Base64 is read exactly, and nothing in it is skipped.** A text is read if and only if it is digits
and the padding that completes them; all other texts give a fault, and those with a character beyond ASCII
the fault that says so. The bits of the digits are the bits of the bytes that are read, followed by
none, four or two bits more. -/
theorem decode_reads_completed_digits :
    (∀ text : List CodePoint, (∃ data, decode text = .ok data) ↔
      ∃ ds pads leftover, text = written ds pads ∧ Completed ds.length pads leftover) ∧
    (∀ text : List CodePoint, (∃ f, decode text = .error f) ↔
      ¬∃ ds pads leftover, text = written ds pads ∧ Completed ds.length pads leftover) ∧
    (∀ (text : List CodePoint) (p : CodePoint), p ∈ text → 128 ≤ p.val →
      ∃ first position count, decode text = .error (.beyondAscii first position count)) ∧
    (∀ (text : List CodePoint) (data : List UInt8), decode text = .ok data ↔
      ∃ ds pads left, text = written ds pads ∧ Completed ds.length pads left.length ∧
        digitBits ds = byteBits data ++ left) := by
  have haccepted (text : List CodePoint) : (∃ data, decode text = .ok data) ↔
      ∃ ds pads leftover, text = written ds pads ∧ Completed ds.length pads leftover := by
    simp only [decode_eq_ok_iff_written]
    constructor
    · rintro ⟨-, ds, pads, leftover, htext, hcompleted, -⟩
      exact ⟨ds, pads, leftover, htext, hcompleted⟩
    · rintro ⟨ds, pads, leftover, htext, hcompleted⟩
      exact ⟨_, ds, pads, leftover, htext, hcompleted, rfl⟩
  refine ⟨haccepted, fun text => ?_, fun text p => decode_of_beyond, fun text data => ?_⟩
  · rw [← haccepted]
    cases decode text <;> simp
  · rw [decode_eq_ok_iff_written]
    constructor
    · rintro ⟨ds, pads, leftover, htext, hcompleted, rfl⟩
      obtain ⟨left, hbits, hleft⟩ := exists_digitBits_eq ds
      rw [hcompleted.leftover_eq, ← hleft] at hcompleted
      exact ⟨ds, pads, left, htext, hcompleted, hbits⟩
    · rintro ⟨ds, pads, left, htext, hcompleted, hbits⟩
      obtain ⟨left', hbits', hleft'⟩ := exists_digitBits_eq ds
      have hlen : left'.length = left.length := hleft'.trans hcompleted.leftover_eq.symm
      have hbytes := List.append_inj' (hbits'.symm.trans hbits) hlen
      exact ⟨ds, pads, left.length, htext, hcompleted, byteBits_injective hbytes.1⟩

/-- A character beyond ASCII, padding behind a whole group, and a group whose left-over bits are not
zero. -/
theorem decode_of_three_texts :
    CodePoint.ofChar 'ü' ∈ CodePoint.ofString "ü===" ∧ 128 ≤ (CodePoint.ofChar 'ü').val ∧
      (∃ first position count,
        decode (CodePoint.ofString "ü===") = .error (.beyondAscii first position count)) ∧
      (∃ data, decode (CodePoint.ofString "QUJD=====") = .ok data) ∧
      decode (CodePoint.ofString "QUJ=") = .ok [0x41, 0x42] := by
  obtain ⟨haccepted, -, hbeyond, hread⟩ := decode_reads_completed_digits
  have hmem : CodePoint.ofChar 'ü' ∈ CodePoint.ofString "ü===" := by decide
  have hwide : 128 ≤ (CodePoint.ofChar 'ü').val := by decide
  refine ⟨hmem, hwide, hbeyond _ _ hmem hwide, ?_, ?_⟩
  · exact (haccepted _).2 ⟨[16, 20, 9, 3], 5, 0, by decide, .whole rfl (.inl (by decide))⟩
  · exact (hread _ _).2 ⟨[16, 20, 9], 1, [false, true], by decide, .three rfl, by decide⟩

end Base64

end RuleRegex
