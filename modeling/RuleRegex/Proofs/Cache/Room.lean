import Mathlib.Tactic.ByContra
import RuleRegex.Cache

/-!
# Making room in a cache

A cache makes room by dropping its least recently used entry again and again. It keeps the last entries
that fit into its size, unless the size is negative: then it has dropped them all and still has no room.
So it never has more entries than its size, and none if that is negative.

## Main definitions

* `Cache.Fits` — the entries of a cache fit into its size, if anything does.
-/

namespace RuleRegex

namespace Cache

variable {Code : Type} {c c' : Cache Code} {source : Source} {o : Object Code}
  {entries : List (Source × Object Code)}

/-! ## Dropping entries -/

theorem evicted?_of_neg {size : Int} (h : size < 0) : evicted? size entries = none := by
  induction entries with
  | nil => exact if_neg (by omega)
  | cons e entries ih =>
    have hlen : ¬((e :: entries).length : Int) ≤ size := by omega
    rw [evicted?, if_neg hlen, ih]

/-- To drop one entry after the other is to keep the last ones that fit. -/
theorem evicted?_natCast {size : Nat} :
    evicted? (size : Int) entries = some (trimmed size entries) := by
  induction entries with
  | nil => simp [evicted?, trimmed]
  | cons e entries ih =>
    rw [evicted?, trimmed]
    by_cases hlen : (e :: entries).length ≤ size
    · rw [if_pos (by omega), Nat.sub_eq_zero_of_le hlen, List.drop_zero]
    · have hdrop : (e :: entries).length - size = entries.length - size + 1 := by
        rw [List.length_cons] at hlen ⊢
        omega
      rw [if_neg (by omega), ih, trimmed, hdrop, List.drop_succ_cons]

/-- An insertion keeps the last entries that fit. -/
theorem insert?_of_natCast {size : Nat} (h : c.maxSize = size) :
    c.insert? source o = some { c with entries := trimmed size (renewed c.entries source o) } := by
  rw [insert?, h, evicted?_natCast, Option.map_some]

/-- There is no room for an entry exactly if the size is negative. -/
theorem insert?_eq_none_iff : c.insert? source o = none ↔ c.maxSize < 0 := by
  constructor
  · intro h
    by_contra hsize
    obtain ⟨size, hsize⟩ := Int.eq_ofNat_of_zero_le (Int.not_lt.1 hsize)
    rw [insert?_of_natCast hsize] at h
    cases h
  · intro h
    rw [insert?, evicted?_of_neg h, Option.map_none]

/-- An insertion runs out of entries exactly if the size is negative. -/
theorem insert?_miss_eq_none_iff : c.miss.insert? source o = none ↔ c.maxSize < 0 :=
  insert?_eq_none_iff

theorem exists_of_insert? (h : c.insert? source o = some c') :
    ∃ size : Nat, c.maxSize = size ∧
      c' = { c with entries := trimmed size (renewed c.entries source o) } := by
  have hsize : ¬c.maxSize < 0 := by
    intro hneg
    rw [insert?_eq_none_iff.2 hneg] at h
    cases h
  obtain ⟨size, hsize⟩ := Int.eq_ofNat_of_zero_le (Int.not_lt.1 hsize)
  rw [insert?_of_natCast hsize] at h
  exact ⟨size, hsize, (Option.some.inj h).symm⟩

theorem maxSize_of_insert? (h : c.insert? source o = some c') : c'.maxSize = c.maxSize := by
  obtain ⟨size, -, rfl⟩ := exists_of_insert? h
  rfl

theorem misses_of_insert? (h : c.insert? source o = some c') : c'.misses = c.misses := by
  obtain ⟨size, -, rfl⟩ := exists_of_insert? h
  rfl

/-! ## The size of a cache -/

/-- The entries of a cache fit into its size; into a negative size no entry does. -/
def Fits (c : Cache Code) : Prop := (c.entries.length : Int) ≤ max c.maxSize 0

/-- A cache that fits has no more entries than its size says. -/
theorem Fits.length_le (h : c.Fits) (hsize : 0 ≤ c.maxSize) :
    (c.entries.length : Int) ≤ c.maxSize := by
  rw [Fits] at h
  omega

theorem Fits.entries_eq_nil (h : c.Fits) (hsize : c.maxSize < 0) : c.entries = [] := by
  rw [Fits] at h
  exact List.eq_nil_of_length_eq_zero (by omega)

theorem fits_of_entries_eq_nil (h : c.entries = []) : c.Fits := by
  rw [Fits, h]
  exact Int.le_max_right c.maxSize 0

theorem Fits.miss (h : c.Fits) : c.miss.Fits := h

/-- Renewing an entry adds none. -/
theorem length_renewed_le (hfind : entries.lookup source = some o) (o' : Object Code) :
    (renewed entries source o').length ≤ entries.length := by
  obtain ⟨front, back, rfl, -⟩ := List.lookup_eq_some_iff.1 hfind
  have hfront := List.length_filter_le (·.1 ≠ source) front
  have hback := List.length_filter_le (·.1 ≠ source) back
  simp [renewed] at hfront hback ⊢
  omega

/-- A hit only moves an entry. -/
theorem Fits.hit (h : c.Fits) (hfind : c.find? source = some o) : (c.hit source o).Fits := by
  have hlen := length_renewed_le hfind o
  rw [Fits] at h ⊢
  simp only [Cache.hit]
  omega

/-- After an insertion the entries fit. -/
theorem fits_of_insert? (h : c.insert? source o = some c') : c'.Fits := by
  obtain ⟨size, hsize, rfl⟩ := exists_of_insert? h
  simp only [Fits, hsize, trimmed, List.length_drop]
  omega

end Cache

end RuleRegex
