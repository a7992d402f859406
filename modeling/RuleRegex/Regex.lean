import RuleRegex.Config
import RuleRegex.Engine.Interface
import RuleRegex.Escape.Convert

/-!
# Compiled regexes

A source is compiled by the engine after its octal escapes have been converted. What goes wrong is
reported for the pattern as it was written.

## Main definitions

* `Regex` — a compiled source.
* `CompileError`, `MatchError` — what can go wrong.
* `Regex.compile` — compiles a source under a configuration.
* `Regex.spans`, `Regex.match` — the first non-empty match in a subject, by offsets and by bytes.
-/

namespace RuleRegex

structure Regex (Code : Type) where
  source : Source
  code : Code
  limits : Option Limits
  jit : Bool
  captureCount : Nat

/-- What the engine says against a pattern. -/
structure Rejection where
  pattern : List Char
  position : Option Int
  message : String
  code : Option Int
  deriving DecidableEq, Repr

def Rejection.text (r : Rejection) : String :=
  let place := match r.position with
    | some p => " at offset " ++ toString p
    | none => ""
  "Error compiling regex /" ++ String.ofList r.pattern ++ "/" ++ place ++ "\n" ++ r.message

/-- What goes wrong in the engine while matching. -/
structure Breakdown where
  code : Option Int
  message : String
  deriving DecidableEq, Repr

def Breakdown.text (b : Breakdown) : String :=
  let code := match b.code with
    | some c => " (code=" ++ toString c ++ ")"
    | none => ""
  "Match error: " ++ b.message ++ code

inductive CompileError where
  | libraryMissing
  | rejected (r : Rejection)
  /-- A limit that the engine does not take. -/
  | badLimit (name : String) (value : Int)
  deriving DecidableEq, Repr

inductive MatchError where
  | notBytes (kind : String)
  | failed (b : Breakdown)
  deriving DecidableEq, Repr

def libraryMissingText (errors : List (String × String)) : String :=
  "Failed to load PCRE2 library: " ++
    "; ".intercalate (errors.map fun (name, error) => name ++ ": " ++ error)

def badLimitText (name : String) (value : Int) : String :=
  name ++ " must be between 1 and " ++ toString Config.largestLimit ++ ", got " ++ toString value

def notBytesText (kind : String) : String := "subject must be bytes, not " ++ kind

abbrev Span := Nat × Nat

namespace Regex

variable {Code : Type}

def engineLimit (name : String) (limit : Option Int) : Except CompileError (Option Nat) :=
  match limit with
  | none => .ok none
  | some n => if 0 < n ∧ n ≤ Config.largestLimit then .ok (some n.toNat) else .error (.badLimit name n)

/-- The limits of a configuration, if it sets any. -/
def engineLimits (c : Config) : Except CompileError (Option Limits) :=
  if c.hasLimits then do
    let matchLimit ← engineLimit "match_limit" c.matchLimit
    let depthLimit ← engineLimit "depth_limit" c.depthLimit
    let heapLimit ← engineLimit "heap_limit" c.heapLimit
    return some { matchLimit, depthLimit, heapLimit }
  else .ok none

/-- What is reported when the engine rejects the converted pattern of a source. -/
def rejection (engine : Engine Code) (s : Source) (code : Int) (position : Nat) : Rejection :=
  { pattern := s.text
    position := some (originalPosition s.pattern position)
    message := engine.message code
    code := some code }

def compile (engine : Engine Code) (c : Config) (s : Source) : Except CompileError (Regex Code) :=
  if engine.loads c.libraryPath then
    match engine.compile (convert s.pattern) (!s.caseSensitive) with
    | .error (code, position) => .error (.rejected (rejection engine s code position))
    | .ok compiled =>
      match engineLimits c with
      | .error e => .error e
      | .ok limits =>
        .ok { source := s, code := compiled, limits,
              jit := c.useJit && engine.translates compiled,
              captureCount := engine.captureCount compiled }
  else .error .libraryMissing

def spanOf : Option Nat × Option Nat → Option Span
  | (some start, some stop) => some (start, stop)
  | _ => none

/-- The spans of the whole match and of each group, from what the engine says of a match. -/
def spansOf (captureCount : Nat) (o : Outcome) : List (Option Span) :=
  (List.range (captureCount + 1)).map fun (i : Nat) =>
    if o.code ≤ (i : Int) then none else (o.pairs[i]?).bind spanOf

/-- Where the first non-empty match in a subject stands, and each of its groups. -/
def spans (engine : Engine Code) (r : Regex Code) (subject : Given Bytes) :
    Except MatchError (Option (List (Option Span))) :=
  match subject with
  | .improper kind => .error (.notBytes kind)
  | .proper bytes =>
    let o := engine.run r.code r.limits bytes
    if o.code = noMatchCode then .ok none
    else if o.code < 0 then
      .error (.failed { code := some o.code, message := engine.message o.code })
    else .ok (some (spansOf r.captureCount o))

/-- The bytes of a span; a group that took no part has none. -/
def slice (subject : Bytes) : Option Span → Bytes
  | none => []
  | some (start, stop) => (subject.take stop).drop start

def «match» (engine : Engine Code) (r : Regex Code) (subject : Given Bytes) :
    Except MatchError (Option (List Bytes)) :=
  match spans engine r subject with
  | .error e => .error e
  | .ok none => .ok none
  | .ok (some found) =>
    match subject with
    | .improper kind => .error (.notBytes kind)
    | .proper bytes => .ok (some (found.map (slice bytes)))

def display (r : Regex Code) : String :=
  "CompiledRegex(" ++ String.ofList (Quoted.text r.source.text) ++ ", case_sensitive=" ++
    Source.flagWord r.source.caseSensitive ++ ", jit=" ++ Source.flagWord r.jit ++ ")"

end Regex

end RuleRegex
