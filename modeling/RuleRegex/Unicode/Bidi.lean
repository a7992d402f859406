import RuleRegex.Unicode.Data.Bidi
import RuleRegex.Unicode.Runs

/-!
# Bidirectional classes

## Main definitions

* `bidiClass` — the bidirectional class of a code point.
* `bidiNamed?` — the class of a name.
-/

namespace RuleRegex.Unicode

def bidiRuns : Runs := Runs.ofText Data.bidiRuns

/-- The bidirectional class of a code point, by its abbreviation. -/
def bidiClass (c : Nat) : String := bidiRuns.value c

def bidiNamed? (name : String) : Option String :=
  bidiRuns.values.find? fun value => String.ofList (value.toList.map Char.toLower) = name

end RuleRegex.Unicode
