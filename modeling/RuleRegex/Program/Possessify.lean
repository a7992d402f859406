import RuleRegex.Program.Apart
import RuleRegex.Program.Code

/-!
# Repeated items that never go back

A repeated item need not go back if what follows cannot take what it took, for then going back is of no
use. It is made possessive.

## Main definitions

* `Program.settles` — whether what follows a repeated item takes nothing that the item takes.
* `Program.possessified` — the program with such items made possessive.
-/

namespace RuleRegex

namespace Program

/-- A repeated item, and whether it takes as much as possible. -/
structure Repeated where
  matcher : Matcher
  greedy : Bool

/-- What is known of the end of a group without looking at what follows. -/
inductive AtEnd where
  | settled (holds : Bool)
  | follows
  deriving DecidableEq

/-- What is known of a repeated item at the end of a group. `entered` says whether the group was entered
after the item. -/
def atEnd (hasCalls : Bool) (r : Repeated) (entered : Bool) : Bracket → AtEnd
  | .capture _ | .possessiveCapture _ => if hasCalls then .settled false else .follows
  | .scriptRun => if r.matcher.listed?.isSome then .follows else .settled false
  | .look _ _ | .atomic => .settled !entered
  | .lookAgain _ => .settled false
  | _ => .follows

def isEntered : Bracket → Bool
  | .plain | .capture _ | .atomic => true
  | _ => false

def mostWays : Nat := 1000

/-- A check of a way, if there is one left to look at. The state is how many are left. -/
def onWay (check : StateM Nat Bool) : StateM Nat Bool := do
  let left ← get
  set (left - 1)
  if left ≤ 1 then return false else check

/-- Whether both checks hold. The second one is made only if the first holds. -/
def both (first second : StateM Nat Bool) : StateM Nat Bool := do
  if ← first then second else return false

mutual

/-- Whether what follows a repeated item from a place on takes nothing that the item takes, on all ways. The
fuel is twice the number of instructions. -/
def settles (p : Program) (hasCalls : Bool) (r : Repeated) : Nat → Bool → Nat → StateM Nat Bool
  | 0, _, _ => return false
  | fuel + 1, entered, i =>
    match p.at? i with
    | some .finish => return r.greedy
    | some (.branch _) => settles p hasCalls r fuel entered (p.groupEnd i)
    | some (.closing (.repeated .greedy) _) | some (.closing (.repeated .lazy) _) => return false
    | some (.closing _ back) =>
      if !r.greedy then return false
      else match p.at? (i - back) with
        | some (.opening b _) =>
          match atEnd hasCalls r entered b with
          | .settled holds => return holds
          | .follows => settles p hasCalls r fuel entered (i + 1)
        | _ => return false
    | some (.opening b _) =>
      if isEntered b then settlesBranches p hasCalls r fuel i else return false
    | some (.passable _) =>
      match p.at? (i + 1) with
      | some (.opening b _) =>
        if isEntered b then
          both (onWay (settles p hasCalls r fuel false (p.groupEnd (i + 1) + 1)))
            (settles p hasCalls r fuel entered (i + 1))
        else return false
      | _ => return false
    | some (.single m) => return r.matcher.isApart m
    | some (.several m c) =>
      if !r.matcher.isApart m then return false
      else if 0 < c.least then return true
      else settles p hasCalls r fuel entered (i + 1)
    | some (.anchor a) => return r.matcher.isApartFromEnd a
    | _ => return false

def settlesBranches (p : Program) (hasCalls : Bool) (r : Repeated) : Nat → Nat → StateM Nat Bool
  | 0, _ => return false
  | fuel + 1, bracket =>
    let next := p.nextBracket bracket
    if p.isBranch next then
      both (onWay (settles p hasCalls r fuel false (bracket + 1)))
        (settlesBranches p hasCalls r fuel next)
    else settles p hasCalls r fuel true (bracket + 1)

end

def isCall : Inst → Bool
  | .call _ => true
  | _ => false

/-- An instruction at a place, made possessive if it is a repeated item that need not go back. -/
def possessifiedAt (p : Program) (hasCalls : Bool) (inst : Inst) (i : Nat) : StateM Nat Inst := do
  match inst with
  | .several m c =>
    if c.greed = .possessive ∨ c.most = some c.least then return inst
    else
      let r : Repeated := ⟨m, c.greed = .greedy⟩
      if ← onWay (p.settles hasCalls r (2 * p.code.size + 2) false (i + 1)) then
        return .several m { c with greed := .possessive }
      else return inst
  | inst => return inst

/-- The program with those repeated items made possessive that need not go back. -/
def possessified (p : Program) : Program :=
  let hasCalls := p.code.any isCall
  let change := p.code.toList.zipIdx.mapM fun (inst, i) => p.possessifiedAt hasCalls inst i
  { p with code := (change.run mostWays).1.toArray }

end Program

end RuleRegex
