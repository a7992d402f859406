import RuleRegex.Pattern.Visit

/-!
# Items that take characters

## Main definitions

* `Node.consumes` — whether a node surely takes at least one character.
-/

namespace RuleRegex

mutual

/-- Whether a node surely takes at least one character. -/
def Node.consumes : Node → Bool
  | .single _ c => 1 ≤ c.least
  | .group kind _ branches c => !kind.isLook && 1 ≤ c.least && Node.allConsume branches
  | .conditional .define _ _ _ _ => false
  | .conditional _ _ _ branches c =>
    branches.length == 2 && 1 ≤ c.least && Node.allConsume branches
  | _ => false

/-- Whether a branch surely takes at least one character before it accepts. -/
def Node.branchConsumes : List Node → Bool
  | [] => false
  | .accept :: _ => false
  | n :: ns => n.consumes || Node.branchConsumes ns

def Node.allConsume : List (List Node) → Bool
  | [] => true
  | b :: bs => Node.branchConsumes b && Node.allConsume bs

end

end RuleRegex
