import RuleRegex.Proofs.CommandLine.Untrusted
import RuleRegex.Proofs.CommandLine.Words
import RuleRegex.Proofs.Record.Canonical
import RuleRegex.Proofs.Regex.Groups

/-!
# What a command answers

A command is done, or it finds nothing, or it fails; the exit code says which. What it prints it prints
after the last thing that can fail, so a command that fails prints nothing and logs one error. A verbose log
changes neither the exit code nor what is printed.

## Main definitions

* `CommandLine.Succeeds`, `CommandLine.FindsNothing`, `CommandLine.Fails` — what can come of a command.
* `CommandLine.Whole` — an answer is that of a command that is done, or finds nothing, or fails.
* `CommandLine.SameButLog` — two ends of the program differ in the log at most.
-/

namespace RuleRegex

namespace CommandLine

variable {Code : Type} {engine : Engine Code} {env : Environment} {room : Json.Room} {command : Command}
  {report : Report} {ls : List (List Char)} {message : String} {verbose : Bool} {ending : Ending}

/-! ## What can come of a command -/

/-- Compiling a pattern under the configuration of the environment gives a result. -/
def CompilesTo (engine : Engine Code) (env : Environment) (pattern : String) (ignoreCase : Bool)
    (x : Except CompileError (Regex Code)) : Prop :=
  ∃ c, Config.ofEnvironment env = .ok c ∧
    Regex.compile engine c (.ofText pattern.toList !ignoreCase) = x

inductive Succeeds (engine : Engine Code) (env : Environment) (room : Json.Room) :
    Command → List (List Char) → Prop
  | normalized (pattern : String) : Succeeds engine env room (.normalize pattern) [convert pattern.toList]
  | matched {pattern subject : String} {ignoreCase : Bool} {regex : Regex Code} {captures : List Bytes}
    (hcompile : CompilesTo engine env pattern ignoreCase (.ok regex))
    (hmatch : regex.match engine (.proper (Utf8.encode subject.toList)) = .ok (some captures)) :
    Succeeds engine env room (.matchOnce pattern subject ignoreCase) (matchLines captures)
  | encoded (pattern : String) (ignoreCase : Bool) (stored : StoredForm) :
    Succeeds engine env room (.encode pattern ignoreCase stored)
      [encoded (.ofText pattern.toList !ignoreCase) stored]
  | document {data : String} {s : Source} (hread : Document.read (CodePoint.ofString data) room = .ok s) :
    Succeeds engine env room (.decode data .json) (sourceLines s)
  | record {data : String} {bytes : Bytes} {s : Source} (hhex : Hex.decode data.toList = .ok bytes)
    (hread : Record.read bytes = .ok s) : Succeeds engine env room (.decode data .binary) (sourceLines s)

inductive FindsNothing (engine : Engine Code) (env : Environment) : Command → Prop
  | intro {pattern subject : String} {ignoreCase : Bool} {regex : Regex Code}
    (hcompile : CompilesTo engine env pattern ignoreCase (.ok regex))
    (hmatch : regex.match engine (.proper (Utf8.encode subject.toList)) = .ok none) :
    FindsNothing engine env (.matchOnce pattern subject ignoreCase)

/-- A command fails with a message: a fault of the library, of the pattern, of the match, or of the stored
data, or data that is not hexadecimal. -/
inductive Fails (engine : Engine Code) (env : Environment) (room : Json.Room) : Command → String → Prop
  | libraryMissing {pattern subject : String} {ignoreCase : Bool} {c : Config}
    (hc : Config.ofEnvironment env = .ok c)
    (hcompile : Regex.compile engine c (.ofText pattern.toList !ignoreCase) = .error .libraryMissing) :
    Fails engine env room (.matchOnce pattern subject ignoreCase)
      (libraryMissingText (engine.loadErrors c.libraryPath))
  | rejected {pattern subject : String} {ignoreCase : Bool} {r : Rejection}
    (hcompile : CompilesTo engine env pattern ignoreCase (.error (.rejected r))) :
    Fails engine env room (.matchOnce pattern subject ignoreCase) r.text
  | broken {pattern subject : String} {ignoreCase : Bool} {regex : Regex Code} {b : Breakdown}
    (hcompile : CompilesTo engine env pattern ignoreCase (.ok regex))
    (hmatch : regex.match engine (.proper (Utf8.encode subject.toList)) = .error (.failed b)) :
    Fails engine env room (.matchOnce pattern subject ignoreCase) b.text
  | document {data : String} {f : Document.Failure}
    (hread : Document.read (CodePoint.ofString data) room = .error f) (hf : f.isFault = true) :
    Fails engine env room (.decode data .json) f.message
  | notHex {data : String} {position : Nat} (hhex : Hex.decode data.toList = .error position) :
    Fails engine env room (.decode data .binary)
      ("Invalid hex input: non-hexadecimal number found in fromhex() arg at position " ++
        toString position)
  | record {data : String} {bytes : Bytes} {f : Record.Fault} (hhex : Hex.decode data.toList = .ok bytes)
    (hf : Record.Malformed bytes f) : Fails engine env room (.decode data .binary) f.message

/-- How a command ends with and without a verbose log: it answers in one of three ways, or it crashes. Only
what a failure logs depends on the log. -/
inductive Ends (engine : Engine Code) (env : Environment) (room : Json.Room) (command : Command) :
    (Bool → Ending) → Prop
  | done {ls : List (List Char)} (h : Succeeds engine env room command ls) :
    Ends engine env room command fun _ => .answered (done ls)
  | noMatch (h : FindsNothing engine env command) :
    Ends engine env room command fun _ =>
      .answered { exit := exitNoMatch, output := lines ["no match".toList] }
  | failed {message : String} {note : Option String} (h : Fails engine env room command message) :
    Ends engine env room command fun verbose => .answered (failed message verbose note)
  | crashed (c : Crash) : Ends engine env room command fun _ => .crashed c

theorem ends_runMatch (engine : Engine Code) (env : Environment) (room : Json.Room)
    (pattern subject : String) (ignoreCase : Bool) :
    Ends engine env room (.matchOnce pattern subject ignoreCase) fun verbose =>
      runCommand engine env room verbose (.matchOnce pattern subject ignoreCase) := by
  simp only [runCommand, runMatch]
  cases hc : Config.ofEnvironment env with
  | error f => exact .crashed _
  | ok c =>
    simp only
    have compilesTo {x : Except CompileError (Regex Code)}
        (h : Regex.compile engine c (.ofText pattern.toList !ignoreCase) = x) :
        CompilesTo engine env pattern ignoreCase x := ⟨c, hc, h⟩
    cases h : Regex.compile engine c (.ofText pattern.toList !ignoreCase) with
    | error e =>
      cases e with
      | libraryMissing => exact .failed (.libraryMissing hc h)
      | badLimit name value => exact .crashed _
      | rejected r => exact .failed (.rejected (compilesTo h))
    | ok regex =>
      simp only
      cases hmatch : regex.match engine (.proper (Utf8.encode subject.toList)) with
      | error e =>
        obtain ⟨b, rfl⟩ := Regex.exists_of_match_proper hmatch
        exact .failed (.broken (compilesTo h) hmatch)
      | ok found =>
        cases found with
        | none => exact .noMatch (.intro (compilesTo h) hmatch)
        | some captures => exact .done (.matched (compilesTo h) hmatch)

theorem ends_runDecode (engine : Engine Code) (env : Environment) (room : Json.Room) (data : String)
    (stored : StoredForm) :
    Ends engine env room (.decode data stored) fun verbose =>
      runCommand engine env room verbose (.decode data stored) := by
  simp only [runCommand]
  cases stored with
  | json =>
    cases hread : Document.read (CodePoint.ofString data) room with
    | ok s =>
      simp only [runDecode, hread]
      exact .done (.document hread)
    | error f =>
      cases hf : f.isFault with
      | true =>
        simp only [runDecode_of_isFault hf hread]
        exact .failed (.document hread hf)
      | false =>
        simp only [runDecode_of_not_isFault hf hread]
        exact .crashed _
  | binary =>
    simp only [runDecode]
    cases hhex : Hex.decode data.toList with
    | error position => exact .failed (.notHex hhex)
    | ok bytes =>
      simp only
      cases hread : Record.read bytes with
      | ok s => exact .done (.record hhex hread)
      | error f => exact .failed (.record hhex (Record.read_eq_error_iff.1 hread))

/-- **How a command ends.** -/
theorem ends_runCommand (engine : Engine Code) (env : Environment) (room : Json.Room) (command : Command) :
    Ends engine env room command fun verbose => runCommand engine env room verbose command := by
  cases command with
  | normalize pattern => exact .done (.normalized pattern)
  | matchOnce pattern subject ignoreCase => exact ends_runMatch engine env room pattern subject ignoreCase
  | encode pattern ignoreCase stored =>
    cases stored
    · exact .done (.encoded pattern ignoreCase .json)
    · exact .done (.encoded pattern ignoreCase .binary)
  | decode data stored => exact ends_runDecode engine env room data stored

/-- What a command that answers has come to, and its report. -/
theorem report_cases (hrun : runCommand engine env room verbose command = .answered report) :
    (∃ ls, Succeeds engine env room command ls ∧ report = done ls) ∨
      FindsNothing engine env command ∧
        report = { exit := exitNoMatch, output := lines ["no match".toList] } ∨
      ∃ message note, Fails engine env room command message ∧ report = failed message verbose note := by
  have hends := ends_runCommand engine env room command
  generalize hf : (fun verbose => runCommand engine env room verbose command) = f at hends
  have hreport : f verbose = .answered report := (congrFun hf verbose).symm.trans hrun
  cases hends with
  | @done ls h =>
    cases hreport
    exact .inl ⟨ls, h, rfl⟩
  | noMatch h =>
    cases hreport
    exact .inr (.inl ⟨h, rfl⟩)
  | @failed message note h =>
    cases hreport
    exact .inr (.inr ⟨message, note, h, rfl⟩)
  | crashed c => cases hreport

/-- A command that is done prints its lines and nothing else. -/
theorem exists_succeeds_of_exit_eq_zero
    (hrun : runCommand engine env room verbose command = .answered report) (hexit : report.exit = 0) :
    ∃ ls, Succeeds engine env room command ls ∧ report.output = lines ls := by
  obtain ⟨ls, h, rfl⟩ | ⟨-, rfl⟩ | ⟨message, note, -, rfl⟩ := report_cases hrun
  · exact ⟨ls, h, rfl⟩
  · cases hexit
  · cases hexit

/-- A word asks for a verbose log: it is the option for that or abbreviates it. -/
def AsksVerbose (w : String) : Prop :=
  programForm.role w = .ok (.option verboseOption "--verbose" none)

instance (w : String) : Decidable (AsksVerbose w) :=
  inferInstanceAs (Decidable (_ = _))

theorem AsksVerbose.ne_marker {w : String} (h : AsksVerbose w) : w ≠ "--" := by
  rintro rfl
  revert h
  decide +kernel

theorem run_of_read {words : List String} {r : Request} (h : Request.read words = .ok r) :
    run engine env words room = runCommand engine env room r.verbose r.command := by
  rw [run, h]

/-- A command line that is answered asks for a command. -/
theorem exists_read_of_run {words : List String} (h : run engine env words room = .answered report) :
    ∃ r, Request.read words = .ok r ∧
      runCommand engine env room r.verbose r.command = .answered report := by
  cases hread : Request.read words with
  | error e =>
    rw [run, hread] at h
    simp only at h
    split at h <;> cases h
  | ok r => exact ⟨r, rfl, (run_of_read hread).symm.trans h⟩

end CommandLine

end RuleRegex
