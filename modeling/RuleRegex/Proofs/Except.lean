/-!
# Computations that may fail

A computation in steps succeeds if all its steps do, and fails at the first step that does.
-/

namespace RuleRegex

variable {ε σ τ : Type} {x : Except ε σ} {f : σ → Except ε τ}

theorem ok_bind (a : σ) (f : σ → Except ε τ) : (Except.ok a >>= f) = f a := rfl

/-- A sequence succeeds if both of its parts do, the second on what the first gave. -/
theorem bind_eq_ok_iff {b : τ} : (x >>= f) = .ok b ↔ ∃ a, x = .ok a ∧ f a = .ok b := by
  cases x with
  | error e =>
    constructor
    · intro h
      cases h
    · rintro ⟨_, h, _⟩
      cases h
  | ok a =>
    constructor
    · intro h
      exact ⟨a, rfl, h⟩
    · rintro ⟨_, ha, h⟩
      cases ha
      exact h

theorem bind_eq_error_iff {e : ε} :
    (x >>= f) = .error e ↔ x = .error e ∨ ∃ a, x = .ok a ∧ f a = .error e := by
  cases x with
  | error e' =>
    constructor
    · intro h
      cases h
      exact .inl rfl
    · rintro (h | ⟨_, h, _⟩)
      · cases h
        rfl
      · cases h
  | ok a =>
    constructor
    · intro h
      exact .inr ⟨a, rfl, h⟩
    · rintro (h | ⟨_, ha, h⟩)
      · cases h
      · cases ha
        exact h

theorem map_eq_ok_iff {g : σ → τ} {b : τ} : x.map g = .ok b ↔ ∃ a, x = .ok a ∧ g a = b := by
  cases x <;> simp [Except.map]

theorem mapError_ok {ε' : Type} (g : ε → ε') (a : σ) : (Except.ok a).mapError g = .ok a := rfl

theorem mapError_eq_ok_iff {ε' : Type} {g : ε → ε'} {a : σ} : x.mapError g = .ok a ↔ x = .ok a := by
  cases x with
  | error e =>
    constructor
    · intro h
      cases h
    · intro h
      cases h
  | ok b => rw [mapError_ok, Except.ok.injEq, Except.ok.injEq]

end RuleRegex
