import Mathlib.Data.List.DropRight
import Mathlib.Data.Nat.Digits.Defs
import RuleRegex.Text.Integer

/-!
# The texts of integers

An integer is read from exactly the texts that a small grammar describes: blanks around perhaps a sign
and then digits, with single low lines between digits, and not more digits than are read. The decimal
notation of a number is one of them.

## Main definitions

* `Text.Padded` — a text is a core with blanks around it.
* `Text.Digits`, `Text.Signed`, `Text.Numeral` — the texts of digits, of digits with a sign, and of
  integers.
-/

namespace RuleRegex

namespace Text

variable {blank : Char → Bool} {text core body rest : List Char} {c : Char} {d : Nat} {ds : List Nat}
  {n : Int}

/-! ## Blanks around a text -/

/-- A text is a core with blanks around it. The core neither begins nor ends with a blank. -/
def Padded (blank : Char → Bool) (text core : List Char) : Prop :=
  ∃ before after, text = before ++ core ++ after ∧ (∀ c ∈ before ++ after, blank c = true) ∧
    (∀ c ∈ core.head?, blank c = false) ∧ ∀ c ∈ core.getLast?, blank c = false

def trimmed (blank : Char → Bool) (text : List Char) : List Char :=
  ((text.dropWhile blank).reverse.dropWhile blank).reverse

theorem dropWhile_of_head? {l : List Char} (h : ∀ c ∈ l.head?, blank c = false) :
    l.dropWhile blank = l := by
  cases l with
  | nil => rfl
  | cons c l => rw [List.dropWhile_cons_of_neg (by simp [h c rfl])]

theorem head?_dropWhile {l : List Char} : ∀ c ∈ (l.dropWhile blank).head?, blank c = false := by
  intro c hc
  have h := List.head?_dropWhile_not blank l
  rw [hc] at h
  simpa using h

/-- The core of a padded text is what trimming leaves. -/
theorem trimmed_of_padded (h : Padded blank text core) : trimmed blank text = core := by
  obtain ⟨before, after, rfl, hblank, hhead, hlast⟩ := h
  rw [List.forall_mem_append] at hblank
  rw [trimmed, List.append_assoc, List.dropWhile_append_of_pos hblank.1]
  cases core with
  | nil =>
    have hnil : after.dropWhile blank = [] := List.dropWhile_eq_nil_iff.2 hblank.2
    rw [List.nil_append, hnil]
    rfl
  | cons c core =>
    have hafter : ∀ c ∈ after.reverse, blank c = true := fun c hc => hblank.2 c (List.mem_reverse.1 hc)
    rw [dropWhile_of_head? (l := c :: core ++ after) hhead, List.reverse_append,
      List.dropWhile_append_of_pos hafter, dropWhile_of_head? (by rwa [List.head?_reverse]),
      List.reverse_reverse]

theorem padded_trimmed (blank : Char → Bool) (text : List Char) :
    Padded blank text (trimmed blank text) := by
  have hafter : text.dropWhile blank =
      trimmed blank text ++ ((text.dropWhile blank).reverse.takeWhile blank).reverse := by
    rw [trimmed, ← List.reverse_append, List.takeWhile_append_dropWhile, List.reverse_reverse]
  refine ⟨text.takeWhile blank, ((text.dropWhile blank).reverse.takeWhile blank).reverse, ?_, ?_, ?_,
    ?_⟩
  · rw [List.append_assoc, ← hafter, List.takeWhile_append_dropWhile]
  · rw [List.forall_mem_append]
    exact ⟨fun c => List.mem_takeWhile_imp, fun c hc => List.mem_takeWhile_imp (List.mem_reverse.1 hc)⟩
  · intro c hc
    refine head?_dropWhile (l := text) c ?_
    rw [hafter, List.head?_append, Option.mem_def.1 hc]
    rfl
  · intro c hc
    rw [trimmed, List.getLast?_reverse] at hc
    exact head?_dropWhile c hc

theorem padded_iff : Padded blank text core ↔ trimmed blank text = core :=
  ⟨trimmed_of_padded, fun h => h ▸ padded_trimmed blank text⟩

/-- A text is trimmed to nothing exactly if it is blank. -/
theorem trimmed_eq_nil_iff : trimmed blank text = [] ↔ ∀ c ∈ text, blank c = true := by
  rw [← padded_iff]
  constructor
  · rintro ⟨before, after, rfl, hblank, -⟩
    rwa [List.append_nil]
  · exact fun h => ⟨text, [], by simp, by simpa using h, by simp, by simp⟩

/-! ## Digits -/

/-- Digits, with single low lines between them. -/
inductive Digits : List Char → List Nat → Prop
  | last {c : Char} {d : Nat} (h : digitValue? c = some d) : Digits [c] [d]
  | next {c : Char} {d : Nat} {rest : List Char} {ds : List Nat} (h : digitValue? c = some d)
    (hrest : Digits rest ds) : Digits (c :: rest) (d :: ds)
  | line {c : Char} {d : Nat} {rest : List Char} {ds : List Nat} (h : digitValue? c = some d)
    (hrest : Digits rest ds) : Digits (c :: '_' :: rest) (d :: ds)

def Follows (text : List Char) (ds : List Nat) : Prop :=
  text = [] ∧ ds = [] ∨ Digits text ds ∨ ∃ rest, text = '_' :: rest ∧ Digits rest ds

theorem not_digits_nil : ¬Digits [] ds := by
  rintro ⟨⟩

theorem digits_cons_iff :
    Digits (c :: rest) ds ↔ ∃ d ds', digitValue? c = some d ∧ ds = d :: ds' ∧ Follows rest ds' := by
  constructor
  · rintro (h | ⟨h, hrest⟩ | ⟨h, hrest⟩)
    · exact ⟨_, _, h, rfl, .inl ⟨rfl, rfl⟩⟩
    · exact ⟨_, _, h, rfl, .inr (.inl hrest)⟩
    · exact ⟨_, _, h, rfl, .inr (.inr ⟨_, rfl, hrest⟩)⟩
  · rintro ⟨d, ds', h, rfl, ⟨rfl, rfl⟩ | hrest | ⟨rest, rfl, hrest⟩⟩
    · exact .last h
    · exact .next h hrest
    · exact .line h hrest

theorem digitValue?_line : digitValue? '_' = none := by
  decide

/-- The reader of digits takes what may follow a digit if one came last, and digits otherwise. -/
theorem digits?_eq_some_iff (afterDigit : Bool) :
    digits? afterDigit text = some ds ↔ if afterDigit then Follows text ds else Digits text ds := by
  induction text generalizing afterDigit ds with
  | nil => cases afterDigit <;> simp [digits?, Follows, not_digits_nil, eq_comm]
  | cons c rest ih =>
    rw [digits?]
    cases hd : digitValue? c with
    | some d =>
      have hne : c ≠ '_' := by
        rintro rfl
        cases digitValue?_line.symm.trans hd
      have hrest : (digits? true rest).map (d :: ·) = some ds ↔ Digits (c :: rest) ds := by
        simp only [Option.map_eq_some_iff, ih, if_true, digits_cons_iff, hd]
        grind
      cases afterDigit <;> simp [hrest, Follows, hne]
    | none =>
      have hnone : ¬Digits (c :: rest) ds := by
        simp [digits_cons_iff, hd]
      by_cases hc : c = '_'
      · subst hc
        cases afterDigit <;> simp [ih, Follows, hnone]
      · cases afterDigit <;> simp [Follows, hnone, hc]

/-! ## Integers -/

def decimal (ds : List Nat) : Nat := Nat.ofDigits 10 ds.reverse

/-- Digits with perhaps a sign. -/
inductive Signed : List Char → List Nat → Int → Prop
  | plain {text : List Char} {ds : List Nat} (h : Digits text ds) : Signed text ds (decimal ds)
  | plus {text : List Char} {ds : List Nat} (h : Digits text ds) : Signed ('+' :: text) ds (decimal ds)
  | minus {text : List Char} {ds : List Nat} (h : Digits text ds) :
    Signed ('-' :: text) ds (-decimal ds)

def Numeral (text : List Char) (n : Int) : Prop :=
  ∃ core ds, Padded isIntegerBlank text core ∧ Signed core ds n ∧ ds.length ≤ digitLimit

/-- Digits are read by Horner's rule. -/
theorem decimal_eq_foldl (ds : List Nat) : decimal ds = ds.foldl (fun n d => 10 * n + d) 0 := by
  rw [decimal, Nat.ofDigits_eq_foldr, List.foldr_reverse]
  simp [Nat.add_comm]

def signAndDigits (core : List Char) : Bool × List Char :=
  match core with
  | '-' :: body => (true, body)
  | '+' :: body => (false, body)
  | _ => (false, core)

/-- An integer is read from the digits and the sign that trimming leaves. -/
theorem integer?_eq (text : List Char) :
    integer? text = (digits? false (signAndDigits (trimmed isIntegerBlank text)).2).bind fun ds =>
      if digitLimit < ds.length then none
      else some (if (signAndDigits (trimmed isIntegerBlank text)).1 then
        -((ds.foldl (fun n d => 10 * n + d) 0 : Nat) : Int)
      else (ds.foldl (fun n d => 10 * n + d) 0 : Nat)) := rfl

theorem signAndDigits_of_digits (h : Digits text ds) : signAndDigits text = (false, text) := by
  have hminus : digitValue? '-' = none := by decide
  have hplus : digitValue? '+' = none := by decide
  cases text with
  | nil => rfl
  | cons c rest =>
    obtain ⟨d, -, hd, -⟩ := digits_cons_iff.1 h
    unfold signAndDigits
    split
    · next heq =>
      obtain ⟨rfl, -⟩ := List.cons.inj heq
      cases hminus.symm.trans hd
    · next heq =>
      obtain ⟨rfl, -⟩ := List.cons.inj heq
      cases hplus.symm.trans hd
    · rfl

/-- A core is an integer exactly if what follows its sign are the digits of it. -/
theorem signed_iff :
    Signed core ds n ↔ Digits (signAndDigits core).2 ds ∧
      n = if (signAndDigits core).1 then -(decimal ds : Int) else decimal ds := by
  constructor
  · rintro (h | h | h)
    · rw [signAndDigits_of_digits h]
      exact ⟨h, rfl⟩
    · exact ⟨h, rfl⟩
    · exact ⟨h, rfl⟩
  · rintro ⟨h, rfl⟩
    unfold signAndDigits at h ⊢
    split at h
    · exact .minus h
    · exact .plus h
    · exact .plain h

/-- **An integer is read from exactly the texts of integers.** -/
theorem integer?_eq_some_iff : integer? text = some n ↔ Numeral text n := by
  have hcore : Numeral text n ↔
      ∃ ds, Signed (trimmed isIntegerBlank text) ds n ∧ ds.length ≤ digitLimit := by
    simp [Numeral, padded_iff]
  rw [hcore, integer?_eq]
  simp only [signed_iff, Option.bind_eq_some_iff, digits?_eq_some_iff, Bool.false_eq_true, if_false,
    decimal_eq_foldl]
  refine exists_congr fun ds => ?_
  split <;> grind

/-! ## What is not blank -/

theorem isDigit_bounds (h : c.isDigit = true) : 48 ≤ c.toNat ∧ c.toNat ≤ 57 := by
  simp only [Char.isDigit, Bool.and_eq_true, decide_eq_true_eq, ge_iff_le, UInt32.le_iff_toNat_le] at h
  exact h

theorem isBlank_of_isDigit (h : c.isDigit = true) : isBlank c = false := by
  have hc := isDigit_bounds h
  simp only [isBlank, Bool.or_eq_false_iff, Bool.and_eq_false_iff, decide_eq_false_iff_not,
    beq_eq_false_iff_ne]
  omega

theorem isBlank_of_isIntegerBlank (h : isIntegerBlank c = true) : isBlank c = true := by
  rw [isIntegerBlank] at h
  split at h
  · simp only [Bool.or_eq_true, Bool.and_eq_true, decide_eq_true_eq, beq_iff_eq] at h
    rcases h with rfl | h
    · decide
    · simp [isBlank, h]
  · exact h

theorem isIntegerBlank_of_isDigit (h : c.isDigit = true) : isIntegerBlank c = false := by
  rw [← Bool.not_eq_true]
  intro hblank
  cases (isBlank_of_isDigit h).symm.trans (isBlank_of_isIntegerBlank hblank)

/-- A digit that is not blank before an integer is not blank at all. -/
theorem isBlank_of_digitValue? (hd : digitValue? c = some d) (h : isIntegerBlank c = false) :
    isBlank c = false := by
  rw [isIntegerBlank] at h
  rw [digitValue?] at hd
  split at hd
  · split at hd
    · next hdigit => exact isBlank_of_isDigit hdigit
    · cases hd
  · next hwide => exact (if_neg hwide).symm.trans h

/-- The text of an integer is not blank. -/
theorem Numeral.exists_not_isBlank (h : Numeral text n) : ∃ c ∈ text, isBlank c = false := by
  obtain ⟨core, ds, ⟨before, after, rfl, -, hhead, -⟩, hsigned, -⟩ := h
  obtain ⟨c, hc, hblank⟩ : ∃ c, core.head? = some c ∧ isBlank c = false := by
    cases hsigned with
    | plain hdigits =>
      cases hdigits with
      | last hd | next hd | line hd => exact ⟨_, rfl, isBlank_of_digitValue? hd (hhead _ rfl)⟩
    | plus => exact ⟨'+', rfl, by decide⟩
    | minus => exact ⟨'-', rfl, by decide⟩
  refine ⟨c, ?_, hblank⟩
  exact List.mem_append_left after (List.mem_append_right before (List.mem_of_mem_head? hc))

/-! ## Decimal notation -/

theorem digitValue?_of_isDigit (h : c.isDigit = true) : digitValue? c = some (c.toNat - 48) := by
  have hc := isDigit_bounds h
  rw [digitValue?, if_pos (by omega), if_pos h]

theorem digits_of_isDigit (hne : text ≠ []) (h : ∀ c ∈ text, c.isDigit = true) :
    Digits text (text.map fun c => c.toNat - 48) := by
  induction text with
  | nil => exact absurd rfl hne
  | cons c rest ih =>
    rw [List.forall_mem_cons] at h
    have hc := digitValue?_of_isDigit h.1
    cases rest with
    | nil => exact .last hc
    | cons c' rest => exact .next hc (ih (List.cons_ne_nil c' rest) h.2)

/-- Decimal notation has the value of its number. -/
theorem decimal_toDigits (m : Nat) :
    decimal ((Nat.toDigits 10 m).map fun c => c.toNat - 48) = m := by
  rw [decimal_eq_foldl, List.foldl_map]
  exact Nat.ofDigitChars_ten_toDigits

/-- **The decimal notation of a number is one of its texts**, unless it has more digits than are read. -/
theorem numeral_toString (hpos : 0 ≤ n) (h : n < 10 ^ digitLimit) : Numeral (toString n).toList n := by
  obtain ⟨m, rfl⟩ := Int.eq_ofNat_of_zero_le hpos
  have htext : (toString (m : Int)).toList = Nat.toDigits 10 m :=
    (congrArg String.toList Nat.toString_eq_ofList_toDigits).trans String.toList_ofList
  have hdigit : ∀ c ∈ Nat.toDigits 10 m, c.isDigit = true := fun c =>
    Nat.isDigit_of_mem_toDigits (by decide) (by decide)
  have hsigned : Signed (Nat.toDigits 10 m) ((Nat.toDigits 10 m).map fun c => c.toNat - 48) m := by
    have hplain := Signed.plain (digits_of_isDigit Nat.toDigits_ne_nil hdigit)
    rwa [decimal_toDigits] at hplain
  have hlength : ((Nat.toDigits 10 m).map fun c => c.toNat - 48).length ≤ digitLimit := by
    rw [List.length_map, Nat.length_toDigits_le_iff (by decide) (by decide)]
    exact_mod_cast h
  have hpadded : Padded isIntegerBlank (Nat.toDigits 10 m) (Nat.toDigits 10 m) := by
    refine ⟨[], [], by simp, by simp, ?_, ?_⟩
    · exact fun c hc => isIntegerBlank_of_isDigit (hdigit c (List.mem_of_mem_head? hc))
    · exact fun c hc => isIntegerBlank_of_isDigit (hdigit c (List.mem_of_mem_getLast? hc))
  rw [htext]
  exact ⟨_, _, hpadded, hsigned, hlength⟩

end Text

end RuleRegex
