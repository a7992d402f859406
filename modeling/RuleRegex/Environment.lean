/-!
# Environments

## Main definitions

* `Environment` — variables with values.
-/

namespace RuleRegex

/-- Variables with their values; of entries for one variable the first counts. -/
structure Environment where
  entries : List (String × String) := []
  deriving Repr, Inhabited

namespace Environment

def get? (env : Environment) (name : String) : Option String := env.entries.lookup name

def set (env : Environment) (name value : String) : Environment :=
  ⟨(name, value) :: env.entries.filter (·.1 ≠ name)⟩

def unset (env : Environment) (name : String) : Environment :=
  ⟨env.entries.filter (·.1 ≠ name)⟩

theorem get?_set_self (env : Environment) (name value : String) :
    (env.set name value).get? name = some value := by
  simp [get?, set]

end Environment

end RuleRegex
