import RuleRegex.Match.Step

/-!
# Matching from one start

## Main definitions

* `Task.run` — matches from one start.
-/

namespace RuleRegex

inductive Ended where
  | found (p : Point Stack)
  | failed (v : Verdict) (storage skipsToName : Nat)
  | breach (b : Breach)

namespace Task

/-- Goes on until matching from one start ends. Matching that takes more steps than there is fuel for would
have broken a limit. -/
def runFrom (x : Task) : Nat → Next → Ended
  | 0, _ => .breach .matchLimit
  | fuel + 1, n =>
    match n with
    | .found p => .found p
    | .breach b => .breach b
    | .go t => x.runFrom fuel (x.step t)
    | .report v t =>
      match t.stack with
      | .empty => .failed v t.storage t.skipsToName
      | .left r p below => x.runFrom fuel (x.resume v { t with point := p, stack := below } r)

/-- The fuel for one start: each point that is made is left once and takes up no more steps than there are
instructions, and fewer points are made than the limit says. -/
def fuel (x : Task) : Nat := 2 * (x.matchLimit + 2) * (x.program.code.size + 2)

def run (x : Task) (groupCount start storage : Nat) : Ended :=
  if x.matchLimit = 0 then .breach .matchLimit
  else if x.depthLimit = 0 then .breach .depthLimit
  else
    let point : Point Stack :=
      { place := 0, position := start, start, captures := Array.replicate (groupCount + 1) none
        calling := none, group := none, depth := 0 }
    x.runFrom x.fuel (.go { point, stack := .empty, made := 1, storage, skipsToName := 0 })

end Task

end RuleRegex
