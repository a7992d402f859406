import RuleRegex.Program.Matcher

/-!
# Programs

A program is a list of instructions. Groups are brackets in it: an opening instruction, the instructions
of the branches with one between each two, and a closing one. Each bracket knows how far it is to the next
one, and the closing one how far back its group begins, so that a group can be copied as it is.

## Main definitions

* `Bracket` — what an opening instruction does beside grouping.
* `Closing` — whether and how a group is repeated.
* `Inst` — an instruction.
* `Program` — the instructions of a pattern, and where its groups begin.
-/

namespace RuleRegex

/-- What an opening instruction does beside grouping. -/
inductive Bracket where
  | plain
  /-- A group whose repetition ends with an empty turn. -/
  | guarded
  | capture (n : Nat)
  | atomic
  | scriptRun
  | look (d : Direction) (negated : Bool)
  | lookAgain (d : Direction)
  /-- A conditional group; its condition is the next instruction. -/
  | conditional
  /-- A conditional group whose repetition ends with an empty turn. -/
  | guardedConditional
  /-- A group that is repeated without going back. -/
  | possessive
  | possessiveCapture (n : Nat)
  deriving DecidableEq, Repr

inductive Closing where
  | once
  | repeated (g : Greed)
  deriving DecidableEq, Repr

/-- The condition of a conditional group that is no lookaround. -/
inductive Test where
  /-- Whether one of the groups is set. -/
  | set (groups : List Nat)
  /-- Whether one of the groups, or any if there is no list, is being called. -/
  | called (groups : Option (List Nat))
  | constant (b : Bool)
  deriving DecidableEq, Repr

inductive Inst where
  | single (m : Matcher)
  /-- A matcher that takes so many characters. -/
  | several (m : Matcher) (c : Count)
  | anchor (a : Anchor)
  /-- What the first of the groups that is set has captured. -/
  | backreference (groups : List Nat) (caseless : Bool) (c : Count)
  | call (group : Nat)
  /-- The start of a group, and how far it is to the next bracket of it. -/
  | opening (b : Bracket) (next : Nat)
  /-- The start of another branch, and how far it is to the next bracket of the group. -/
  | branch (next : Nat)
  /-- The end of a group, and how far back it begins. -/
  | closing (c : Closing) (back : Nat)
  | test (t : Test)
  /-- Goes back by so many characters. -/
  | back (count : Nat)
  /-- The group that follows can be passed over; lazily it is passed over first. -/
  | passable (lazy : Bool)
  /-- The group that follows can be passed over if it is not entered even once. -/
  | passablePossessive
  /-- The group that follows is passed over. -/
  | passed
  | verb (v : Verb)
  /-- Captures a group that is still open, before the end is accepted. -/
  | capture (group : Nat)
  | accept
  | acceptLook
  | finish
  deriving Repr, Inhabited

def Inst.openedGroup? : Inst → Option Nat
  | .opening (.capture n) _ | .opening (.possessiveCapture n) _ => some n
  | _ => none

structure Program where
  code : Array Inst
  /-- Where the capture groups begin, by number; the first place is that of the whole pattern. -/
  starts : Array Nat
  hasOnward : Bool
  settings : Settings

namespace Program

def at? (p : Program) (i : Nat) : Option Inst := p.code[i]?

/-- The place of the next bracket of the group whose bracket stands at a place. -/
def nextBracket (p : Program) (i : Nat) : Nat :=
  match p.code[i]? with
  | some (.opening _ next) | some (.branch next) => i + next
  | _ => i

def isBranch (p : Program) (i : Nat) : Bool :=
  match p.code[i]? with
  | some (.branch _) => true
  | _ => false

/-- The end of the group whose bracket stands at a place. The fuel is the number of instructions. -/
def endFrom (p : Program) : Nat → Nat → Nat
  | 0, i => i
  | fuel + 1, i =>
    let next := p.nextBracket i
    if p.isBranch next then p.endFrom fuel next else next

def groupEnd (p : Program) (i : Nat) : Nat := p.endFrom p.code.size i

def lastBranchFrom (p : Program) : Nat → Nat → Nat
  | 0, i => i
  | fuel + 1, i =>
    let next := p.nextBracket i
    if p.isBranch next then p.lastBranchFrom fuel next else i

def lastBranch (p : Program) (i : Nat) : Nat := p.lastBranchFrom p.code.size i

end Program

end RuleRegex
