import RuleRegex.Program.Code

/-!
# The state of matching

Matching goes forward from a point. Where there is another way to go on, the point is left on a stack
together with what to do there if the way tried first fails. Groups remember the place on the stack that
their start left.

## Main definitions

* `Point` — where matching is: in the program, in the subject, and what has been captured.
* `Stack` — the points left behind, each with a `Resume`.
* `Verdict` — what is reported back to the points left behind.
-/

namespace RuleRegex

/-- What is reported back to the points left behind. Verbs say which group was being called. -/
inductive Verdict where
  | noMatch
  /-- The end of a lookaround was reached. -/
  | matched
  /-- A verb accepted in a lookaround, with these captures. -/
  | accepted (captures : Array (Option (Nat × Nat)))
  /-- A turn of a group that does not go back has ended. -/
  | turn
  | commit (calling : Option Nat)
  | prune (calling : Option Nat)
  | skip (position : Nat) (calling : Option Nat)
  | skipTo (name : List Nat) (calling : Option Nat)
  /-- The verb that goes on to the next branch, and its place. -/
  | onward (place : Nat) (calling : Option Nat)
  deriving DecidableEq, Repr

inductive GroupMark where
  | plain
  | capture (n : Nat)
  | call (n : Nat)
  /-- A lookaround that is a condition. -/
  | condition
  deriving DecidableEq, Repr

/-- What to do with a verdict at a point left behind. -/
inductive Resume where
  /-- Branches of a group that does not remember its start; the bracket of the branch that was tried. -/
  | plainBranch (bracket : Nat)
  /-- Branches of a group that may remember its start. -/
  | groupBranch (bracket : Nat) (mark : Option GroupMark)
  | look (bracket : Nat)
  | lookNot (bracket : Nat)
  /-- Branches of the lookaround that is the condition of the group whose bracket is at `group`. -/
  | condition (group : Nat) (positive : Bool) (bracket : Nat)
  /-- A group that does not go back: its first bracket, the one tried, whether it has matched, whether it
  may be absent, and where its turn began. -/
  | possessive (first bracket : Nat) (once absent : Bool) (position : Nat)
  | call (n bracket : Nat)
  /-- There is another place to go on. -/
  | goTo (place : Nat)
  | mark (name : List Nat)
  /-- A verb that makes a failure into its own verdict. -/
  | verb (v : Verdict)
  /-- Other positions to go on from, and a last one that leaves nothing behind. -/
  | stops (positions : List Nat) (last : Option Nat)
  /-- One more character can be taken, at most so many times. -/
  | more (m : Matcher) (most : Option Nat)
  /-- One more repetition of a captured text can be taken, at most so many times. -/
  | moreSame (caseless : Bool) (start stop : Nat) (most : Option Nat)
  /-- Nothing can be done. -/
  | pass
  deriving Repr

structure Point (σ : Type) where
  place : Nat
  position : Nat
  /-- Where the match that is reported begins. -/
  start : Nat
  captures : Array (Option (Nat × Nat))
  /-- The group that is being called. -/
  calling : Option Nat
  /-- The innermost group that remembers its start, and the stack with the point before it on top. -/
  group : Option (GroupMark × σ)
  /-- How many points are in use before this one. -/
  depth : Nat

/-- The points left behind, the last first. -/
inductive Stack where
  | empty
  | left (r : Resume) (p : Point Stack) (below : Stack)

structure Thread where
  point : Point Stack
  stack : Stack
  /-- How many points have been made since matching began at this start. -/
  made : Nat
  /-- How many units of storage there are for points. -/
  storage : Nat
  /-- How often a skip to a name has been come upon. -/
  skipsToName : Nat

inductive Breach where
  | matchLimit
  | depthLimit
  | heapLimit
  | recursionLoop
  deriving DecidableEq, Repr

inductive Next where
  | go (t : Thread)
  | report (v : Verdict) (t : Thread)
  | found (p : Point Stack)
  | breach (b : Breach)

end RuleRegex
