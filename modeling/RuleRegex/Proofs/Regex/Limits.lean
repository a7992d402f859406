import RuleRegex.Proofs.First
import RuleRegex.Regex

/-!
# The limits of a configuration

A limit that is set is given to the engine if it is a positive number of 32 bits. The first limit that is
not is reported, and a match is limited by exactly those that are set.

## Main definitions

* `Regex.Taken`, `Regex.namedLimits` — a limit that the engine takes, and the limits in order.
* `Regex.Enforced` — the limits of a match are those that a configuration sets.
-/

namespace RuleRegex

namespace Regex

variable {c : Config} {name : String} {limit : Option Int} {limits : Option Limits} {l : Option Nat}
  {e : CompileError} {n : Int}

/-- The engine takes a limit, which is not there or a positive number of 32 bits. -/
def Taken (limit : Option Int) : Prop := ∀ n ∈ limit, 1 ≤ n ∧ n ≤ 4294967295

/-- The limits of a configuration with their names, in the order in which they are looked at. -/
def namedLimits (c : Config) : List (String × Option Int) :=
  [("match_limit", c.matchLimit), ("depth_limit", c.depthLimit), ("heap_limit", c.heapLimit)]

inductive Enforced (c : Config) : Option Limits → Prop
  | unlimited (hmatch : c.matchLimit = none) (hdepth : c.depthLimit = none)
    (hheap : c.heapLimit = none) : Enforced c none
  | limited {l : Limits}
    (hset : c.matchLimit ≠ none ∨ c.depthLimit ≠ none ∨ c.heapLimit ≠ none)
    (hmatch : l.matchLimit.map Nat.cast = c.matchLimit)
    (hdepth : l.depthLimit.map Nat.cast = c.depthLimit)
    (hheap : l.heapLimit.map Nat.cast = c.heapLimit) : Enforced c (some l)

theorem taken_some_iff : Taken (some n) ↔ 0 < n ∧ n ≤ Config.largestLimit := by
  constructor
  · intro h
    obtain ⟨hpos, hle⟩ := h n rfl
    exact ⟨by omega, hle⟩
  · rintro ⟨hpos, hle⟩ m hm
    obtain rfl := Option.some.inj hm
    exact ⟨by omega, hle⟩

theorem taken_none : Taken none := fun _ h => nomatch h

/-- A limit that is passed on is one that the engine takes, and it is passed on unchanged. -/
theorem taken_of_engineLimit (h : engineLimit name limit = .ok l) :
    Taken limit ∧ l.map Nat.cast = limit := by
  cases limit with
  | none =>
    cases h
    exact ⟨taken_none, rfl⟩
  | some n =>
    rw [engineLimit] at h
    split at h
    · next hn =>
      cases h
      exact ⟨taken_some_iff.2 hn, congrArg some (Int.toNat_of_nonneg (by omega))⟩
    · cases h

/-- A limit that is refused is reported with its name and its value. -/
theorem not_taken_of_engineLimit (h : engineLimit name limit = .error e) :
    ¬Taken limit ∧ ∃ n, limit = some n ∧ e = .badLimit name n := by
  cases limit with
  | none => cases h
  | some n =>
    rw [engineLimit] at h
    split at h
    · cases h
    · next hn =>
      cases h
      exact ⟨mt taken_some_iff.1 hn, n, rfl, rfl⟩

theorem forall_namedLimits_iff {p : Option Int → Prop} :
    (∀ l ∈ namedLimits c, p l.2) ↔ p c.matchLimit ∧ p c.depthLimit ∧ p c.heapLimit := by
  simp [namedLimits]

theorem hasLimits_iff :
    c.hasLimits = true ↔ c.matchLimit ≠ none ∨ c.depthLimit ≠ none ∨ c.heapLimit ≠ none := by
  simp [Config.hasLimits, Option.isSome_iff_ne_none, or_assoc]

/-- Limits that are given to the engine are those of a match. -/
theorem enforced_of_engineLimits (h : engineLimits c = .ok limits) :
    (∀ l ∈ namedLimits c, Taken l.2) ∧ Enforced c limits := by
  unfold engineLimits at h
  rw [forall_namedLimits_iff]
  split at h
  · next hset =>
    obtain ⟨matchLimit, hmatch, h⟩ := bind_eq_ok_iff.1 h
    obtain ⟨depthLimit, hdepth, h⟩ := bind_eq_ok_iff.1 h
    obtain ⟨heapLimit, hheap, h⟩ := bind_eq_ok_iff.1 h
    cases h
    obtain ⟨hmatch, hmatch'⟩ := taken_of_engineLimit hmatch
    obtain ⟨hdepth, hdepth'⟩ := taken_of_engineLimit hdepth
    obtain ⟨hheap, hheap'⟩ := taken_of_engineLimit hheap
    exact ⟨⟨hmatch, hdepth, hheap⟩, .limited (hasLimits_iff.1 hset) hmatch' hdepth' hheap'⟩
  · next hset =>
    cases h
    simp only [hasLimits_iff, not_or, not_not] at hset
    obtain ⟨hmatch, hdepth, hheap⟩ := hset
    rw [hmatch, hdepth, hheap]
    exact ⟨⟨taken_none, taken_none, taken_none⟩, .unlimited hmatch hdepth hheap⟩

/-- The first limit that the engine does not take is reported. -/
theorem isFirst_of_engineLimits (h : engineLimits c = .error e) :
    ∃ name n, e = .badLimit name n ∧
      IsFirst (fun l => ¬Taken l.2) (namedLimits c) (name, some n) := by
  unfold engineLimits at h
  split at h
  · have htaken {name : String} {limit : Option Int} (l : Option Nat)
        (h : engineLimit name limit = .ok l) : ¬¬Taken limit := not_not.2 (taken_of_engineLimit h).1
    obtain ⟨⟨name, limit⟩, hfirst, n, rfl, rfl⟩ :
        ∃ l, IsFirst (fun l => ¬Taken l.2) (namedLimits c) l ∧
          ∃ n, l.2 = some n ∧ e = .badLimit l.1 n := by
      refine exists_isFirst_of_bind h not_taken_of_engineLimit htaken fun _ h => ?_
      refine exists_isFirst_of_bind h not_taken_of_engineLimit htaken fun _ h => ?_
      exact exists_isFirst_of_bind h not_taken_of_engineLimit htaken nofun
    exact ⟨name, n, rfl, hfirst⟩
  · cases h

end Regex

end RuleRegex
