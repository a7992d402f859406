import Mathlib.Data.Finset.Card
import Mathlib.Data.List.DropRight

/-!
# Recency

The order of last use of what has been asked for, each thing kept at its last occurrence only, and the
part of it that fits into a size. Using a thing once more moves it to the end, and it makes no
difference whether what does not fit is dropped before or after.

## Main definitions

* `Recent` — a thing occurs, and fewer than so many others occur after that.
-/

namespace RuleRegex

variable {α : Type}

/-! ## The end of a list -/

theorem length_rtake_le (l : List α) (n : Nat) : (l.rtake n).length ≤ n := by
  rw [List.rtake, List.length_drop]
  omega

theorem rtake_of_length_le {l : List α} {n : Nat} (h : l.length ≤ n) : l.rtake n = l := by
  rw [List.rtake, Nat.sub_eq_zero_of_le h, List.drop_zero]

theorem rtake_append_of_le {l r : List α} {n : Nat} (h : n ≤ r.length) :
    (l ++ r).rtake n = r.rtake n := by
  rw [List.rtake, List.rtake, List.length_append, List.drop_append, List.drop_eq_nil_of_le (by omega),
    List.nil_append]
  congr 1
  omega

theorem rtake_suffix_rtake {m n : Nat} (h : m ≤ n) (l : List α) : l.rtake m <:+ l.rtake n :=
  List.drop_suffix_drop_left l (by omega)

/-- In a longer list only the head can be among the last elements as well, if few enough follow it. -/
theorem mem_rtake_cons_iff {n : Nat} {b a : α} {l : List α} :
    a ∈ (b :: l).rtake n ↔ (b = a ∧ l.length < n) ∨ a ∈ l.rtake n := by
  by_cases hlen : l.length < n
  · rw [rtake_of_length_le (by simpa [Nat.succ_le_iff] using hlen), rtake_of_length_le (by omega),
      List.mem_cons]
    simp [hlen, eq_comm]
  · have hsame : (b :: l).rtake n = l.rtake n := by
      rw [← List.singleton_append, rtake_append_of_le (by omega)]
    rw [hsame]
    simp [hlen]

variable [DecidableEq α]

/-! ## Using a thing once more -/

/-- Without duplicates the last element stands at the end. -/
theorem dedup_append_singleton (l : List α) (a : α) :
    (l ++ [a]).dedup = l.dedup.filter (· ≠ a) ++ [a] := by
  induction l with
  | nil => rfl
  | cons b l ih =>
    rw [List.cons_append]
    by_cases hmem : b ∈ l
    · rw [List.dedup_cons_of_mem (List.mem_append_left _ hmem), ih, List.dedup_cons_of_mem hmem]
    · rw [List.dedup_cons_of_notMem hmem]
      by_cases hb : b = a
      · subst hb
        rw [List.dedup_cons_of_mem (by simp), ih, List.filter_cons_of_neg (by simp)]
      · rw [List.dedup_cons_of_notMem (by simp [hmem, hb]), ih,
          List.filter_cons_of_pos (by simpa using hb), List.cons_append]

/-- What does not fit may be dropped before the use as well. -/
theorem rtake_filter_rtake {l : List α} (h : l.Nodup) (n : Nat) (a : α) :
    ((l.rtake n).filter (· ≠ a) ++ [a]).rtake n = (l.filter (· ≠ a) ++ [a]).rtake n := by
  cases n with
  | zero => rw [List.rtake_zero, List.rtake_zero]
  | succ n =>
    rw [List.rtake_concat_succ, List.rtake_concat_succ]
    by_cases hlen : l.length ≤ n + 1
    · rw [rtake_of_length_le hlen]
    · have hkept : n ≤ ((l.rtake (n + 1)).filter (· ≠ a)).length := by
        have hnodup : (l.rtake (n + 1)).Nodup := h.sublist (List.drop_sublist _ _)
        have herase : (l.rtake (n + 1)).erase a = (l.rtake (n + 1)).filter (· ≠ a) := by
          rw [hnodup.erase_eq_filter]
          simp only [bne, beq_eq_decide, decide_not]
        have hle := List.le_length_erase (l := l.rtake (n + 1)) (a := a)
        rw [herase, List.rtake, List.length_drop] at hle
        rw [List.rtake]
        omega
      have hsplit : l = l.take (l.length - (n + 1)) ++ l.rtake (n + 1) :=
        (List.take_append_drop _ l).symm
      conv_rhs => rw [hsplit, List.filter_append, rtake_append_of_le hkept]

/-! ## What fits -/

/-- The thing occurs, and fewer than `n` others occur after that. -/
def Recent (n : Nat) (l : List α) (a : α) : Prop :=
  ∃ i, l[i]? = some a ∧ ((l.drop (i + 1)).toFinset.erase a).card < n

theorem Recent.mono {m n : Nat} {l : List α} {a : α} (h : Recent m l a) (hle : m ≤ n) :
    Recent n l a := by
  obtain ⟨i, hi, hcard⟩ := h
  exact ⟨i, hi, hcard.trans_le hle⟩

/-- In a longer list a thing is also recent as the head, if few enough others follow it. -/
theorem recent_cons_iff {n : Nat} {b a : α} {l : List α} :
    Recent n (b :: l) a ↔ (b = a ∧ (l.toFinset.erase a).card < n) ∨ Recent n l a := by
  constructor
  · rintro ⟨i, hi, hcard⟩
    cases i with
    | zero => exact .inl ⟨Option.some.inj hi, hcard⟩
    | succ i => exact .inr ⟨i, hi, hcard⟩
  · rintro (⟨rfl, hcard⟩ | ⟨i, hi, hcard⟩)
    · exact ⟨0, rfl, hcard⟩
    · exact ⟨i + 1, hi, hcard⟩

/-- A later occurrence has no more after it. -/
theorem recent_of_mem {n : Nat} {a : α} {l : List α} (hmem : a ∈ l)
    (hcard : (l.toFinset.erase a).card < n) : Recent n l a := by
  obtain ⟨i, hi⟩ := List.mem_iff_getElem?.1 hmem
  refine ⟨i, hi, lt_of_le_of_lt (Finset.card_le_card ?_) hcard⟩
  apply Finset.erase_subset_erase
  intro b hb
  rw [List.mem_toFinset] at hb ⊢
  exact List.mem_of_mem_drop hb

/-- **The things that fit are the recent ones.** -/
theorem mem_rtake_dedup_iff {n : Nat} {a : α} {l : List α} :
    a ∈ l.dedup.rtake n ↔ Recent n l a := by
  induction l with
  | nil => simp [Recent]
  | cons b l ih =>
    rw [recent_cons_iff, ← ih]
    by_cases hmem : b ∈ l
    · rw [List.dedup_cons_of_mem hmem]
      constructor
      · exact .inr
      · rintro (⟨rfl, hcard⟩ | h)
        · exact ih.2 (recent_of_mem hmem hcard)
        · exact h
    · rw [List.dedup_cons_of_notMem hmem, mem_rtake_cons_iff]
      refine or_congr_left (and_congr_right ?_)
      rintro rfl
      rw [Finset.erase_eq_of_notMem (by simpa using hmem), List.card_toFinset]

instance (n : Nat) (l : List α) (a : α) : Decidable (Recent n l a) :=
  decidable_of_iff (a ∈ l.dedup.rtake n) mem_rtake_dedup_iff

end RuleRegex
