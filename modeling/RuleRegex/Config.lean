import RuleRegex.Environment
import RuleRegex.Text.Integer
import RuleRegex.Text.Quoted

/-!
# Configurations

A configuration says which engine library is used, how matching is limited and how many compiled
regexes a cache keeps. It is given, or read from an environment.

## Main definitions

* `Config` — the settings; a limit that is not set is the engine's own.
* `Config.ofEnvironment` — the settings of an environment.
-/

namespace RuleRegex

structure Config where
  libraryPath : Option String := none
  useJit : Bool := true
  matchLimit : Option Int := none
  depthLimit : Option Int := none
  heapLimit : Option Int := none
  cacheSize : Int := 512
  deriving DecidableEq, Repr, Inhabited

namespace Config

def largestLimit : Int := 0xFFFFFFFF

def libraryPathVariable : String := "PCRE2_LIBRARY_PATH"

def useJitVariable : String := "HLREGEX_USE_JIT"

def matchLimitVariable : String := "HLREGEX_MATCH_LIMIT"

def depthLimitVariable : String := "HLREGEX_DEPTH_LIMIT"

def heapLimitVariable : String := "HLREGEX_HEAP_LIMIT"

def cacheSizeVariable : String := "HLREGEX_CACHE_SIZE"

inductive Fault where
  | notBoolean (name value : String)
  | notInteger (name value : String)
  | notPositive (name : String) (value : Int)
  | tooLarge (name : String) (value : Int)
  deriving DecidableEq, Repr

def Fault.message : Fault → String
  | notBoolean name value => name ++ " must be a boolean, got " ++ Quoted.string value
  | notInteger name value => name ++ " must be an integer, got " ++ Quoted.string value
  | notPositive name value => name ++ " must be positive, got " ++ toString value
  | tooLarge name value =>
    name ++ " must be at most " ++ toString largestLimit ++ ", got " ++ toString value

def hasLimits (c : Config) : Bool :=
  c.matchLimit.isSome || c.depthLimit.isSome || c.heapLimit.isSome

def trueWords : List String := ["1", "true", "yes", "on"]

def falseWords : List String := ["0", "false", "no", "off"]

/-- The truth value of a word, without regard to case and the blanks around it. -/
def boolean? (value : String) : Option Bool :=
  let word := String.ofList ((Text.stripped value.toList).map Char.toLower)
  if word ∈ trueWords then some true else if word ∈ falseWords then some false else none

/-- A switch; unset it is on. -/
def readSwitch (env : Environment) (name : String) : Except Fault Bool :=
  match env.get? name with
  | none => .ok true
  | some value =>
    match boolean? value with
    | some b => .ok b
    | none => .error (.notBoolean name value)

/-- A positive number with perhaps a bound; unset or blank it is not there. -/
def readLimit (env : Environment) (name : String) (bound : Option Int) : Except Fault (Option Int) :=
  match env.get? name with
  | none => .ok none
  | some value =>
    if (Text.stripped value.toList).isEmpty then .ok none
    else match Text.integer? value.toList with
      | none => .error (.notInteger name value)
      | some n =>
        if n ≤ 0 then .error (.notPositive name n)
        else if bound.any (· < n) then .error (.tooLarge name n)
        else .ok (some n)

/-- The library path; empty it is as unset. -/
def readPath (env : Environment) : Option String :=
  (env.get? libraryPathVariable).filter (· ≠ "")

def ofEnvironment (env : Environment) : Except Fault Config := do
  let cacheSize ← readLimit env cacheSizeVariable none
  let useJit ← readSwitch env useJitVariable
  let matchLimit ← readLimit env matchLimitVariable (some largestLimit)
  let depthLimit ← readLimit env depthLimitVariable (some largestLimit)
  let heapLimit ← readLimit env heapLimitVariable (some largestLimit)
  return {
    libraryPath := readPath env
    useJit, matchLimit, depthLimit, heapLimit
    cacheSize := cacheSize.getD 512 }

end Config

end RuleRegex
