import Mathlib.Data.Finset.Card
import Mathlib.Data.List.Lex
import Mathlib.Data.Prod.Lex
import RuleRegex.Source.Basic

/-!
# The order of sources

Sources are ordered by the values of their pattern bytes and then by the case flag, and of two different
sources one comes before the other. So sorting gives the same list for every reordering of the sources, and
equal ones stand side by side in it.

## Main definitions

* `Source.ExactlyOne` — one of three statements holds and the others do not.
* `Source.key` — what sources are ordered by.
* `Source.changes` — how many neighbours in a list are different.
-/

namespace RuleRegex

namespace Source

def ExactlyOne (p q r : Prop) : Prop := p ∧ ¬q ∧ ¬r ∨ ¬p ∧ q ∧ ¬r ∨ ¬p ∧ ¬q ∧ r

variable {a b : Source} {as bs : Bytes} {l l' : List Source}

/-! ## The key of a source -/

/-- What sources are ordered by: the values of the pattern bytes, and then the case flag. -/
def key (s : Source) : List Nat ×ₗ Bool := toLex (s.pattern.map UInt8.toNat, s.caseSensitive)

theorem map_toNat_injective : Function.Injective (List.map UInt8.toNat) :=
  List.map_injective_iff.2 fun _ _ => UInt8.toNat.inj

theorem key_injective : Function.Injective key := by
  intro a b h
  obtain ⟨hvalues, hflag⟩ := Prod.mk.inj (toLex.injective h)
  have hpattern : a.pattern = b.pattern := map_toNat_injective hvalues
  cases a
  cases b
  simp_all

theorem bytesBefore_iff : bytesBefore as bs = true ↔ as.map UInt8.toNat < bs.map UInt8.toNat := by
  fun_induction bytesBefore as bs with
  | case1 => simp
  | case2 => simp
  | case3 => simp
  | case4 a as bs ih => simp [ih]
  | case5 a as b bs hne =>
    have hvalue : a.toNat ≠ b.toNat := fun h => hne (UInt8.toNat.inj h)
    simp [List.cons_lt_cons_iff, hvalue]

/-- One source comes before another by the values of its bytes, and then by the flag. -/
theorem before_iff : before a b = true ↔
    a.pattern.map UInt8.toNat < b.pattern.map UInt8.toNat ∨
      a.pattern = b.pattern ∧ a.caseSensitive < b.caseSensitive := by
  rw [before]
  split
  · next h => simp [h, Bool.lt_iff]
  · next h => simp [h, bytesBefore_iff]

/-- One source comes before another if its key does. -/
theorem before_iff_key_lt : before a b = true ↔ key a < key b := by
  rw [before_iff, key, key, Prod.Lex.toLex_lt_toLex, map_toNat_injective.eq_iff]

/-- A source is at most another one by the values of its bytes, and then by the flag. -/
theorem atMost_iff : atMost a b = true ↔
    a.pattern.map UInt8.toNat < b.pattern.map UInt8.toNat ∨
      a.pattern = b.pattern ∧ a.caseSensitive ≤ b.caseSensitive := by
  rw [atMost]
  split
  · next h =>
    rw [Bool.le_iff_imp]
    cases a.caseSensitive <;> simp [h]
  · next h => simp [h, bytesBefore_iff]

/-- A source is at most another one exactly if its key is. -/
theorem atMost_iff_key_le : atMost a b = true ↔ key a ≤ key b := by
  rw [atMost_iff, key, key, Prod.Lex.toLex_le_toLex, map_toNat_injective.eq_iff]

/-- Of two sources one comes first, or they are equal. -/
theorem exactlyOne (a b : Source) : ExactlyOne (before a b = true) (a = b) (before b a = true) := by
  rw [before_iff_key_lt, before_iff_key_lt, ← key_injective.eq_iff, ExactlyOne]
  rcases lt_trichotomy (key a) (key b) with h | h | h
  · exact .inl ⟨h, h.ne, h.asymm⟩
  · exact .inr (.inl ⟨h.not_lt, h, h.not_gt⟩)
  · exact .inr (.inr ⟨h.asymm, h.ne', h⟩)

/-! ## Sorting -/

/-- Sorted sources are in order. -/
theorem pairwise_sorted (l : List Source) : (sorted l).Pairwise fun a b => atMost a b = true := by
  apply List.pairwise_mergeSort
  · simp only [atMost_iff_key_le]
    exact fun a b c => le_trans
  · simp only [Bool.or_eq_true, atMost_iff_key_le]
    exact fun a b => le_total _ _

theorem sorted_perm (l : List Source) : (sorted l).Perm l := List.mergeSort_perm l atMost

theorem atMost_antisymm (hab : atMost a b = true) (hba : atMost b a = true) : a = b :=
  key_injective (le_antisymm (atMost_iff_key_le.1 hab) (atMost_iff_key_le.1 hba))

/-- **Sources in order do not depend on the order that they came in.** -/
theorem sorted_eq_of_perm (h : l.Perm l') : sorted l = sorted l' :=
  List.Perm.eq_of_pairwise (fun _ _ _ _ => atMost_antisymm) (pairwise_sorted l) (pairwise_sorted l')
    (((sorted_perm l).trans h).trans (sorted_perm l').symm)

/-! ## Counting -/

theorem nodup_eraseDups (l : List Source) : l.eraseDups.Nodup := by
  induction h : l.length using Nat.strongRecOn generalizing l with
  | ind n ih =>
    cases l with
    | nil => exact List.nodup_nil
    | cons a l =>
      have hlength : (l.filter fun b => !b == a).length < n := by
        rw [← h, List.length_cons]
        exact Nat.lt_succ_of_le (List.length_filter_le _ l)
      rw [List.eraseDups_cons, List.nodup_cons]
      exact ⟨by simp, ih _ hlength _ rfl⟩

theorem distinctCount_eq (l : List Source) : distinctCount l = l.toFinset.card := by
  rw [distinctCount, ← List.toFinset_card_of_nodup (nodup_eraseDups l)]
  congr 1
  ext s
  simp

/-- How many neighbours in a list are different. -/
def changes (l : List Source) : Nat := (l.zip l.tail).countP fun (a, b) => a ≠ b

theorem changes_cons_cons (a b : Source) (l : List Source) :
    changes (a :: b :: l) = changes (b :: l) + if a = b then 0 else 1 := by
  simp [changes, List.countP_cons]

/-- In sources in order every different source begins after a change, but for the first. -/
theorem card_toFinset_cons (h : (a :: l).Pairwise fun a b => atMost a b = true) :
    (a :: l).toFinset.card = 1 + changes (a :: l) := by
  induction l generalizing a with
  | nil => simp [changes]
  | cons b l ih =>
    obtain ⟨hfirst, hrest⟩ := List.pairwise_cons.1 h
    rw [changes_cons_cons, List.toFinset_cons]
    by_cases hab : a = b
    · subst hab
      simp [← ih hrest]
    · have hnew : a ∉ (b :: l).toFinset := by
        rw [List.mem_toFinset, List.mem_cons]
        rintro (rfl | hmem)
        · exact hab rfl
        · have hba : atMost b a = true := (List.pairwise_cons.1 hrest).1 a hmem
          exact hab (atMost_antisymm (hfirst b List.mem_cons_self) hba)
      rw [Finset.card_insert_of_notMem hnew, ih hrest, if_neg hab, Nat.add_assoc]

/-- A list has one different source more than there are changes in it once it is sorted. -/
theorem distinctCount_eq_changes (l : List Source) :
    distinctCount l = if l = [] then 0 else 1 + changes (sorted l) := by
  have hsame : l.toFinset = (sorted l).toFinset := (List.toFinset_eq_of_perm _ _ (sorted_perm l)).symm
  rw [distinctCount_eq]
  split
  · next h => simp [h]
  · next h =>
    rw [hsame]
    have hne : sorted l ≠ [] := fun hnil => h (List.nil_perm.1 (hnil ▸ sorted_perm l))
    obtain ⟨a, rest, hsorted⟩ := List.exists_cons_of_ne_nil hne
    rw [hsorted]
    exact card_toFinset_cons (hsorted ▸ pairwise_sorted l)

/-- **Sources are totally ordered and sorting them is canonical.** The order is that of the values of the
pattern bytes, a proper beginning first, and then of the case flag; of any two sources exactly one comes
first, or they are equal. Sources in order are the given ones, they do not depend on the order in which
they were given, and there is one different source more than there are changes between neighbours. -/
theorem sources_totally_ordered :
    (∀ a b : Source, before a b = true ↔
      a.pattern.map UInt8.toNat < b.pattern.map UInt8.toNat ∨
        a.pattern = b.pattern ∧ a.caseSensitive < b.caseSensitive) ∧
    (∀ a b : Source, ExactlyOne (before a b = true) (a = b) (before b a = true)) ∧
    (∀ a b c : Source, before a b = true → before b c = true → before a c = true) ∧
    (∀ a b : Source, (atMost a b = true ↔ before a b = true ∨ a = b) ∧
      (before b a = true ↔ ¬atMost a b = true) ∧ (atMost b a = true ↔ ¬before a b = true) ∧
      (a ≠ b ↔ before a b = true ∨ before b a = true)) ∧
    (∀ l : List Source, (sorted l).Perm l ∧ ((sorted l).Pairwise fun a b => atMost a b = true) ∧
      ∀ l', l'.Perm l → sorted l' = sorted l) ∧
    ∀ l : List Source, distinctCount l = l.toFinset.card ∧
      distinctCount l = if l = [] then 0 else 1 + changes (sorted l) := by
  refine ⟨fun a b => before_iff, exactlyOne, ?_, fun a b => ⟨?_, ?_, ?_, ?_⟩,
    fun l => ⟨sorted_perm l, pairwise_sorted l, fun l' => sorted_eq_of_perm⟩,
    fun l => ⟨distinctCount_eq l, distinctCount_eq_changes l⟩⟩
  · simp only [before_iff_key_lt]
    exact fun a b c => lt_trans
  · rw [atMost_iff_key_le, before_iff_key_lt, le_iff_lt_or_eq, key_injective.eq_iff]
  · rw [atMost_iff_key_le, before_iff_key_lt, not_le]
  · rw [atMost_iff_key_le, before_iff_key_lt, not_lt]
  · rw [before_iff_key_lt, before_iff_key_lt, lt_or_lt_iff_ne, key_injective.ne_iff]

/-- A byte above ASCII, a proper beginning, and two sources that differ in the flag. -/
example : sorted [⟨[0xff], true⟩, ⟨[0x61, 0x62], true⟩, ⟨[0x61], true⟩, ⟨[0x61], false⟩] =
    [⟨[0x61], false⟩, ⟨[0x61], true⟩, ⟨[0x61, 0x62], true⟩, ⟨[0xff], true⟩] := by
  cbv

end Source

end RuleRegex
