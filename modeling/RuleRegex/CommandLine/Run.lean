import RuleRegex.CommandLine.Command
import RuleRegex.Regex
import RuleRegex.Source.Document
import RuleRegex.Source.Record

/-!
# Running commands

A command answers with an exit code, what it prints, and a log. Faults of a pattern, of a match and of
stored data are logged; a fault of the environment ends the program.

## Main definitions

* `Report` — what a command answers.
* `Ending` — how a command line ends.
* `run` — runs a command line with an engine in an environment.
-/

namespace RuleRegex

namespace CommandLine

inductive Level where
  | debug
  | error
  deriving DecidableEq, Repr

def Level.word : Level → String
  | debug => "DEBUG"
  | error => "ERROR"

structure Report where
  exit : Nat
  output : List Char
  log : List (Level × String) := []
  deriving DecidableEq, Repr

/-- What ends the program without an answer. -/
inductive Crash where
  | environment (f : Config.Fault)
  | badLimit (name : String) (value : Int)
  | digits (f : Document.Failure)
  | tooDeep
  | hollow
  deriving DecidableEq, Repr

def Crash.message? : Crash → Option String
  | environment f => some f.message
  | badLimit name value => some (badLimitText name value)
  | digits f => some f.message
  | tooDeep => none
  | hollow => some UsageFault.hollow.message

inductive Ending where
  | answered (r : Report)
  | misused (e : UsageError)
  | crashed (c : Crash)
  deriving DecidableEq, Repr

def exitDone : Nat := 0

def exitNoMatch : Nat := 1

def exitError : Nat := 2

def lines (ls : List (List Char)) : List Char := ls.flatMap (· ++ ['\n'])

def done (ls : List (List Char)) : Report := { exit := exitDone, output := lines ls }

/-- The report of an error, perhaps with a note on it in a verbose log. -/
def failed (message : String) (verbose : Bool) (note : Option String := none) : Report :=
  { exit := exitError
    output := []
    log := (if verbose then note.toList.map (Level.debug, ·) else []) ++ [(.error, message)] }

def rejectionNote (r : Rejection) : String :=
  "Compile error for /" ++ String.ofList r.pattern ++ "/ at offset " ++
    ((r.position.map toString).getD "None") ++ ": " ++ r.message

def breakdownNote (s : Source) (b : Breakdown) : String :=
  "Match error for /" ++ String.ofList s.text ++ "/: " ++ b.message ++
    " (code=" ++ ((b.code.map toString).getD "None") ++ ")"

def groupLine (number : Nat) (capture : Bytes) : List Char :=
  "group ".toList ++ (toString number).toList ++ ": ".toList ++ Quoted.bytes capture

def matchLines : List Bytes → List (List Char)
  | [] => []
  | whole :: captures =>
    ("match: ".toList ++ Quoted.bytes whole) ::
      captures.zipIdx.map fun (capture, i) => groupLine (i + 1) capture

def sourceLines (s : Source) : List (List Char) :=
  ["pattern: ".toList ++ Quoted.bytes s.pattern,
    "case_sensitive: ".toList ++ (if s.caseSensitive then "true" else "false").toList]

/-- Compiles a source under the configuration of the environment and matches a subject. -/
def runMatch {Code : Type} (engine : Engine Code) (env : Environment) (verbose : Bool) (s : Source)
    (subject : Bytes) : Ending :=
  match Config.ofEnvironment env with
  | .error f => .crashed (.environment f)
  | .ok c =>
    match Regex.compile engine c s with
    | .error .libraryMissing =>
      .answered (failed (libraryMissingText (engine.loadErrors c.libraryPath)) verbose)
    | .error (.badLimit name value) => .crashed (.badLimit name value)
    | .error (.rejected r) => .answered (failed r.text verbose (some (rejectionNote r)))
    | .ok regex =>
      match regex.match engine (.proper subject) with
      | .error (.notBytes kind) => .answered (failed (notBytesText kind) verbose)
      | .error (.failed b) => .answered (failed b.text verbose (some (breakdownNote s b)))
      | .ok none => .answered { exit := exitNoMatch, output := lines ["no match".toList] }
      | .ok (some captures) => .answered (done (matchLines captures))

def runDecode (room : Json.Room) (verbose : Bool) (data : String) : StoredForm → Ending
  | .json =>
    match Document.read (CodePoint.ofString data) room with
    | .ok s => .answered (done (sourceLines s))
    | .error (.unread .tooDeep) => .crashed .tooDeep
    | .error (.unread (.tooManyDigits n)) => .crashed (.digits (.unread (.tooManyDigits n)))
    | .error f => .answered (failed f.message verbose)
  | .binary =>
    match Hex.decode data.toList with
    | .error position =>
      .answered (failed ("Invalid hex input: non-hexadecimal number found in fromhex() arg at position " ++
        toString position) verbose)
    | .ok bytes =>
      match Record.read bytes with
      | .ok s => .answered (done (sourceLines s))
      | .error f => .answered (failed f.message verbose)

def runCommand {Code : Type} (engine : Engine Code) (env : Environment) (room : Json.Room)
    (verbose : Bool) : Command → Ending
  | .normalize pattern => .answered (done [convert pattern.toList])
  | .matchOnce pattern subject ignoreCase =>
    runMatch engine env verbose (.ofText pattern.toList !ignoreCase) (Utf8.encode subject.toList)
  | .encode pattern ignoreCase stored =>
    let s := Source.ofText pattern.toList !ignoreCase
    .answered (done [match stored with
      | .json => Document.write s
      | .binary => Hex.encode (Record.write s)])
  | .decode data stored => runDecode room verbose data stored

/-- Runs a command line. The room is what the reader of documents has left when it is called. -/
def run {Code : Type} (engine : Engine Code) (env : Environment) (words : List String)
    (room : Json.Room := .usual) : Ending :=
  match Request.read words with
  | .error e => if e.fault = .hollow then .crashed .hollow else .misused e
  | .ok r => runCommand engine env room r.verbose r.command

end CommandLine

end RuleRegex
