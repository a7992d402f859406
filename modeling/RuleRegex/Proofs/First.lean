import Mathlib.Data.List.Basic
import RuleRegex.Proofs.Except

/-!
# The first of a list

Several things may be wrong at once, and the first of them in a fixed order is reported.

## Main definitions

* `IsFirst` — the first element of a list with a property.
-/

namespace RuleRegex

variable {α : Type} {p : α → Prop} {a b : α} {l : List α}

/-- The first element of a list with a property. -/
def IsFirst (p : α → Prop) (l : List α) (a : α) : Prop :=
  ∃ before after, l = before ++ a :: after ∧ p a ∧ ∀ b ∈ before, ¬p b

theorem not_isFirst_nil : ¬IsFirst p [] a := by
  rintro ⟨before, after, h, -⟩
  cases (List.append_eq_nil_iff.1 h.symm).2

/-- The first element is the head if that has the property, and otherwise the first one of the tail. -/
theorem isFirst_cons_iff : IsFirst p (b :: l) a ↔ p b ∧ a = b ∨ ¬p b ∧ IsFirst p l a := by
  constructor
  · rintro ⟨before, after, h, ha, hbefore⟩
    cases before with
    | nil =>
      obtain ⟨rfl, -⟩ := List.cons.inj h
      exact .inl ⟨ha, rfl⟩
    | cons d before =>
      obtain ⟨rfl, hl⟩ := List.cons.inj h
      rw [List.forall_mem_cons] at hbefore
      exact .inr ⟨hbefore.1, before, after, hl, ha, hbefore.2⟩
  · rintro (⟨hb, rfl⟩ | ⟨hb, before, after, rfl, ha, hbefore⟩)
    · exact ⟨[], l, rfl, hb, fun _ h => absurd h List.not_mem_nil⟩
    · exact ⟨b :: before, after, rfl, ha, List.forall_mem_cons.2 ⟨hb, hbefore⟩⟩

theorem IsFirst.mem (h : IsFirst p l a) : a ∈ l := by
  obtain ⟨before, after, rfl, -⟩ := h
  exact List.mem_append_right before List.mem_cons_self

theorem IsFirst.eq (h : IsFirst p l a) (h' : IsFirst p l b) : a = b := by
  induction l with
  | nil => exact absurd h not_isFirst_nil
  | cons d l ih =>
    rcases isFirst_cons_iff.1 h with ⟨hd, rfl⟩ | ⟨hd, h⟩ <;>
      rcases isFirst_cons_iff.1 h' with ⟨hd', rfl⟩ | ⟨hd', h'⟩
    · rfl
    · exact absurd hd hd'
    · exact absurd hd' hd
    · exact ih h h'

theorem IsFirst.holds (h : IsFirst p l a) : p a := by
  obtain ⟨before, after, -, ha, -⟩ := h
  exact ha

/-- Of checks that are made one after the other, the first that fails is reported. -/
theorem exists_isFirst_of_bind {ε σ τ : Type} {x : Except ε σ} {k : σ → Except ε τ} {e : ε}
    {q : α → Prop} (h : (x >>= k) = .error e) (herror : x = .error e → p b ∧ q b)
    (hok : ∀ y, x = .ok y → ¬p b) (hk : ∀ y, k y = .error e → ∃ a, IsFirst p l a ∧ q a) :
    ∃ a, IsFirst p (b :: l) a ∧ q a := by
  rcases bind_eq_error_iff.1 h with h | ⟨y, hy, h⟩
  · obtain ⟨hb, hq⟩ := herror h
    exact ⟨b, isFirst_cons_iff.2 (.inl ⟨hb, rfl⟩), hq⟩
  · obtain ⟨a, hfirst, hq⟩ := hk y h
    exact ⟨a, isFirst_cons_iff.2 (.inr ⟨hok y hy, hfirst⟩), hq⟩

end RuleRegex
