import RuleRegex.Subject.Basic
import RuleRegex.Unicode.Script

/-!
# Script runs

A script run is a part of a subject whose characters can be of one script, or of the scripts that are
written together, and whose digits are of one kind.

## Main definitions

* `Subject.isScriptRun` — whether a part of a subject is a script run.
-/

namespace RuleRegex

namespace ScriptRun

open Unicode (Script scriptExtensions)

/-- Which scripts further characters can be of. -/
inductive Demand where
  | nothing
  | oneOf (scripts : List Script)
  /-- Han characters so far, and it is open what they are written together with. -/
  | han
  /-- One of the scripts that are written together. -/
  | together (scripts : List Script)

/-- The scripts that a character with scripts of its own can be of; other characters go with any. -/
def scriptsOf? (c : Nat) : Option (List Script) :=
  match scriptExtensions c with
  | [s] => if s = "Zyyy" ∨ s = "Zinh" then none else some [s]
  | scripts => some (scripts.filter fun s => s ≠ "Zyyy" && s ≠ "Zinh")

def demandOf (own : Script) (scripts : List Script) : Demand :=
  if own = "Hani" then .han
  else if own = "Hira" ∨ own = "Kana" then .together ["Hani", "Hira", "Kana"]
  else if own = "Bopo" then .together ["Hani", "Bopo"]
  else if own = "Hang" then .together ["Hani", "Hang"]
  else .oneOf scripts

/-- The demand after one more character, if it meets the one before. -/
def advance? (d : Demand) (own : Script) (scripts : List Script) : Option Demand :=
  match d with
  | .nothing => some (demandOf own scripts)
  | .han =>
    if own = "Hani" then some .han
    else
      match ["Bopo", "Hira", "Kana", "Hang"].filter (scripts.contains ·) with
      | [] => none
      | ["Bopo"] => some (.together ["Hani", "Bopo"])
      | ["Hira", "Kana"] => some (.together ["Hani", "Hira", "Kana"])
      | _ => some .han
  | .together allowed => if allowed.any (scripts.contains ·) then some d else none
  | .oneOf allowed =>
    match allowed.filter (scripts.contains ·) with
    | [] => none
    | common => some (demandOf own common)

/-- Whether characters meet a demand, and their digits follow the given zero. -/
def meets (d : Demand) (zero : Option Nat) : List Nat → Bool
  | [] => true
  | c :: cs =>
    let own := Unicode.script c
    let next := match scriptsOf? c with
      | none => some d
      | some scripts => advance? d own scripts
    match next with
    | none => false
    | some next =>
      if own = "Zzzz" then false
      else match Unicode.decimalDigit? c, zero with
        | none, _ => meets next zero cs
        | some v, none => meets next (some (c - v)) cs
        | some v, some z => c - v = z && meets next zero cs

end ScriptRun

namespace Subject

/-- The characters between two positions. The fuel is the number of bytes. -/
def codes (s : Subject) (stop : Nat) : Nat → Nat → List Nat
  | 0, _ => []
  | fuel + 1, i =>
    if i < stop then
      match s.char? i with
      | some (c, next) => c :: s.codes stop fuel next
      | none => []
    else []

/-- Whether the part between two positions is a script run. Less than two characters always are. -/
def isScriptRun (s : Subject) (start stop : Nat) : Bool :=
  match s.codes stop s.size start with
  | [] | [_] => true
  | cs => ScriptRun.meets .nothing none cs

end Subject

end RuleRegex
