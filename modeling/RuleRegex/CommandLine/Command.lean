import RuleRegex.CommandLine.Arguments

/-!
# Commands

## Main definitions

* `Command` — what a command line can ask for.
* `Request` — a command, and whether the log is verbose.
* `Request.read` — the request of a command line.
-/

namespace RuleRegex

namespace CommandLine

inductive StoredForm where
  | json
  | binary
  deriving DecidableEq, Repr

inductive Command where
  | normalize (pattern : String)
  | matchOnce (pattern subject : String) (ignoreCase : Bool)
  | encode (pattern : String) (ignoreCase : Bool) (stored : StoredForm)
  | decode (data : String) (stored : StoredForm)
  deriving DecidableEq, Repr

structure Request where
  command : Command
  verbose : Bool
  deriving DecidableEq, Repr

/-- A command line that is at fault, with the words that begin its error message. -/
structure UsageError where
  title : String
  fault : UsageFault
  deriving DecidableEq, Repr

def UsageError.message (e : UsageError) : String := e.title ++ ": error: " ++ e.fault.message

def programName : String := "hlregex"

def verboseOption : OptionForm := ⟨["--verbose"], none⟩

def ignoreCaseOption : OptionForm := ⟨["-i", "--ignore-case"], none⟩

def formatOption : OptionForm := ⟨["--format"], some ["json", "binary"]⟩

def programForm : Form :=
  { title := programName, options := [verboseOption], positionals := ["command"], takesRest := true }

def commandForms : List (String × Form) :=
  [form "normalize" [] ["pattern"],
    form "match" [ignoreCaseOption] ["pattern", "subject"],
    form "encode" [ignoreCaseOption, formatOption] ["pattern"],
    form "decode" [formatOption] ["data"]]
where
  /-- A command with its form. -/
  form (name : String) (options : List OptionForm) (positionals : List String) : String × Form :=
    (name, { title := programName ++ " " ++ name, options, positionals })

def Arguments.storedForm (a : Arguments) : StoredForm :=
  if a.value? formatOption = some "binary" then .binary else .json

def Command.ofArguments? (name : String) (a : Arguments) : Option Command :=
  let ignoreCase := a.has ignoreCaseOption
  match name, a.positionals with
  | "normalize", [[pattern]] => some (.normalize pattern)
  | "match", [[pattern], [subject]] => some (.matchOnce pattern subject ignoreCase)
  | "encode", [[pattern]] => some (.encode pattern ignoreCase a.storedForm)
  | "decode", [[data]] => some (.decode data a.storedForm)
  | _, _ => none

def Request.read (words : List String) : Except UsageError Request := do
  let atProgram (f : UsageFault) : UsageError := ⟨programName, f⟩
  let a ← (programForm.read words).mapError atProgram
  match a.positionals.flatten with
  | [] => throw (atProgram (.argumentsMissing programForm.positionals))
  | name :: rest =>
    match commandForms.lookup name with
    | none => throw (atProgram (.badChoice "command" name (commandForms.map (·.1))))
    | some form =>
      let b ← (form.read rest).mapError fun f => ⟨form.title, f⟩
      let unrecognized := a.unrecognized ++ b.unrecognized
      if !unrecognized.isEmpty then throw (atProgram (.unrecognized unrecognized))
      match Command.ofArguments? name b with
      | some command => return ⟨command, a.has verboseOption⟩
      | none => throw ⟨form.title, .argumentsMissing form.positionals⟩

end CommandLine

end RuleRegex
