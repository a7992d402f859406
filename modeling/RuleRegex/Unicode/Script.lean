import RuleRegex.Unicode.Data.Script
import RuleRegex.Unicode.Runs

/-!
# Scripts

## Main definitions

* `Script` — the four-letter code of a script.
* `script`, `scriptExtensions` — the script of a code point, and all the scripts it is used in.
* `scriptNamed?` — the script of a name.
-/

namespace RuleRegex.Unicode

/-- A script, by its four-letter code. -/
abbrev Script := String

def scripts : Runs := Runs.ofText Data.scriptRuns

def script (c : Nat) : Script := String.ofList ((scripts.value c).toList.take 4)

def inFours : List Char → List String
  | a :: b :: c :: d :: rest => String.ofList [a, b, c, d] :: inFours rest
  | _ => []

/-- The script of a code point, and the other scripts that it is used in. -/
def scriptExtensions (c : Nat) : List Script := inFours (scripts.value c).toList

def scriptNames : List (List String) :=
  (words Data.scriptNames).map fun word =>
    (word.splitBy (fun a b => a ≠ ':' && b ≠ ':')).filterMap fun part =>
      if part = [':'] then none else some (String.ofList part)

def scriptNamed? (name : String) : Option Script :=
  scriptNames.findSome? fun
    | code :: names => if name ∈ names then some code else none
    | [] => none

end RuleRegex.Unicode
