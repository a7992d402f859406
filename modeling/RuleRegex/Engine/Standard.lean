import RuleRegex.Hints.OfPattern
import RuleRegex.Match.Search
import RuleRegex.Pattern.Opening
import RuleRegex.Pattern.Reader
import RuleRegex.Program.Compile
import RuleRegex.Program.Possessify
import RuleRegex.Program.Size
import RuleRegex.Text.Utf8Fault

/-!
# The standard engine

## Main definitions

* `Compiled` — what a pattern compiles to.
* `Engine.standard` — the engine.
-/

namespace RuleRegex

structure Compiled where
  program : Program
  hints : Hints
  groupCount : Nat
  /-- Whether the pattern names a line break character. -/
  namesLineBreak : Bool

namespace Standard

def defaultLibraryNames : List String := ["libpcre2-8.so", "libpcre2-8.so.0", "libpcre2-8.dylib"]

/-- The names to try for a library, the most specific first. -/
def libraryPaths (path : Option String) : List String :=
  match path with
  | none | some "" => defaultLibraryNames
  | some p => [p]

def flawed {α : Type} (f : Flaw × Nat) : Except (Int × Nat) α := .error (f.1.code, f.2)

/-- The faults that show when a pattern has been read, in the order in which they are looked for. -/
def firstFlaw? (p : Pattern) (length : Nat) : Option (Flaw × Nat) :=
  p.lookbehindFault?.or <|
    (p.referenceFault? length).or <|
      if largestProgram < p.units then some (.tooLarge, length) else p.conditionFault?

/-- The pattern of bytes. Its settings are read before it is known to be valid UTF-8. -/
def readPattern (bytes : Bytes) (caseless : Bool) : Except (Int × Nat) Pattern :=
  match Settings.read bytes with
  | .error f => flawed f
  | .ok (settings, skipped) =>
    match Utf8.firstFault? bytes with
    | some (f, p) => .error (f.code, p)
    | none =>
      let symbols := (Symbol.ofBytes bytes).filter fun s => skipped ≤ s.position
      match Read.nodes settings caseless bytes.length symbols with
      | .error h => flawed (h.flaw, h.position bytes.length)
      | .ok p =>
        match firstFlaw? p bytes.length with
        | some f => flawed f
        | none => .ok p

def isLineBreakCharacter : Node → Bool
  | .single (.char c _) _ => c == 10 || c == 13
  | _ => false

def compile (bytes : Bytes) (caseless : Bool) : Except (Int × Nat) Compiled :=
  (readPattern bytes caseless).map fun p =>
    let program := Program.ofPattern p
    let program := if p.settings.noPossessification then program else program.possessified
    { program, hints := .ofPattern p program, groupCount := p.groupCount
      namesLineBreak := p.anyNode isLineBreakCharacter }

def breachCode : Breach → Int
  | .matchLimit => -47
  | .recursionLoop => -52
  | .depthLimit => -53
  | .heapLimit => -63

def breachMessage : Breach → String
  | .matchLimit => "match limit exceeded"
  | .recursionLoop => "nested recursion at the same subject position"
  | .depthLimit => "matching depth limit exceeded"
  | .heapLimit => "heap limit exceeded"

def breaches : List Breach := [.matchLimit, .recursionLoop, .depthLimit, .heapLimit]

/-- The smaller of the limits that are set, of which the first always is. -/
def smallest (limit : Nat) (others : List (Option Nat)) : Nat := others.reduceOption.foldl min limit

/-- The offsets of a match and its groups, as far as groups are set. -/
def outcome (p : Point Stack) : Outcome :=
  let groups := p.captures.toList.drop 1
  let highest := (groups.zipIdx.filter (·.1.isSome)).getLast?.elim 0 (·.2 + 1)
  { code := highest + 1
    pairs := (some p.start, some p.position) :: groups.map fun
      | some (start, stop) => (some start, some stop)
      | none => (none, none) }

def run (c : Compiled) (limits : Option Limits) (bytes : Bytes) : Outcome :=
  match Utf8.firstFault? bytes with
  | some (f, _) => ⟨f.code, []⟩
  | none =>
    let l := limits.getD {}
    let s := c.program.settings
    let search : Search :=
      { task :=
          { program := c.program
            subject := .ofBytes bytes
            matchLimit := smallest 10000000 [l.matchLimit, s.matchLimit]
            depthLimit := smallest 10000000 [l.depthLimit, s.depthLimit]
            heapLimit := smallest 20000000 [l.heapLimit, s.heapLimit]
            pointSize := 128 + 16 * c.groupCount
            ignoredSkips := 0 }
        hints := c.hints
        groupCount := c.groupCount
        namesLineBreak := c.namesLineBreak }
    match search.run with
    | .found p => outcome p
    | .nothing => ⟨noMatchCode, []⟩
    | .breach b => ⟨breachCode b, []⟩

def message (code : Int) : String :=
  let flaw := (Flaw.all.find? fun f => (f.code : Int) = code).map Flaw.message
  let fault := (Utf8.Fault.all.find? fun f => f.code = code).map Utf8.Fault.message
  let breach := (breaches.find? fun b => breachCode b = code).map breachMessage
  ((flaw.or fault).or breach).getD ""

end Standard

/-- The standard engine. Its library can be loaded under its own names only. -/
def Engine.standard : Engine Compiled where
  loads path := path.all fun p => p ∈ "" :: Standard.defaultLibraryNames.take 2
  compile := Standard.compile
  captureCount c := c.groupCount
  run := Standard.run
  message := Standard.message

end RuleRegex
