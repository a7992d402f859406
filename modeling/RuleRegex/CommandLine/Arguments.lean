import RuleRegex.Text.Quoted
import RuleRegex.Unicode.Category

/-!
# Arguments of a command line

A form says which options and which positional arguments there are. Words that begin with a hyphen are
options, which can be abbreviated; a lone pair of hyphens makes all words after it positional.

## Main definitions

* `Form` — what a command line can have.
* `UsageFault` — what can be wrong with a command line.
* `Form.read` — the arguments of a command line.
-/

namespace RuleRegex

namespace CommandLine

/-- An option: its names, and the values to choose from if it takes one. -/
structure OptionForm where
  names : List String
  choices : Option (List String) := none
  deriving DecidableEq, Repr

structure Form where
  /-- The words that begin an error message. -/
  title : String
  options : List OptionForm
  positionals : List String
  /-- Whether the last positional argument takes all the words that follow. -/
  takesRest : Bool := false

/-- The option that asks for help; every form has it. -/
def helpOption : OptionForm := ⟨["-h", "--help"], none⟩

inductive UsageFault where
  | ambiguous (option : String) (candidates : List String)
  | valueRefused (o : OptionForm) (value : String)
  | valueMissing (o : OptionForm)
  | badChoice (argument : String) (value : String) (choices : List String)
  | argumentsMissing (names : List String)
  | unrecognized (words : List String)
  /-- A positional argument of which only the pair of hyphens is left. -/
  | hollow
  /-- No fault: help was asked for. -/
  | help
  deriving DecidableEq, Repr

/-- The names of an option, as one word. -/
def OptionForm.label (o : OptionForm) : String := "/".intercalate o.names

def badChoiceText (argument value : String) (choices : List String) : String :=
  "argument " ++ argument ++ ": invalid choice: " ++ Quoted.string value ++ " (choose from " ++
    ", ".intercalate (choices.map Quoted.string) ++ ")"

def UsageFault.message : UsageFault → String
  | ambiguous option candidates =>
    "ambiguous option: " ++ option ++ " could match " ++ ", ".intercalate candidates
  | valueRefused o value =>
    "argument " ++ o.label ++ ": ignored explicit argument " ++ Quoted.string value
  | valueMissing o => "argument " ++ o.label ++ ": expected one argument"
  | badChoice argument value choices => badChoiceText argument value choices
  | argumentsMissing names => "the following arguments are required: " ++ ", ".intercalate names
  | unrecognized words => "unrecognized arguments: " ++ " ".intercalate words
  | hollow => "not enough values to unpack (expected 1, got 0)"
  | help => ""

inductive Role where
  | value
  /-- The pair of hyphens that makes all words after it values. -/
  | marker
  | option (o : OptionForm) (name : String) (attached : Option String)
  | unknownOption
  deriving DecidableEq, Repr

structure Word where
  text : String
  role : Role
  deriving DecidableEq, Repr

def Word.isOption (w : Word) : Bool :=
  match w.role with
  | .option _ _ _ | .unknownOption => true
  | _ => false

namespace Form

def allOptions (f : Form) : List OptionForm := helpOption :: f.options

def allNames (f : Form) : List (String × OptionForm) :=
  f.allOptions.flatMap fun o => o.names.map fun n => (n, o)

/-- The parts of a word before and after its first equals sign. -/
def atEquals? (text : List Char) : Option (List Char × List Char) :=
  match text.dropWhile (· ≠ '=') with
  | [] => none
  | _ :: value => some (text.takeWhile (· ≠ '='), value)

/-- The options that a word may abbreviate, each with its name and the value attached. -/
def candidates (f : Form) (text : List Char) : List (String × OptionForm × Option String) :=
  match text with
  | '-' :: '-' :: _ =>
    let (start, value) := match atEquals? text with
      | some (start, value) => (start, some (String.ofList value))
      | none => (text, none)
    f.allNames.filterMap fun (n, o) =>
      if start.isPrefixOf n.toList then some (n, o, value) else none
  | _ =>
    f.allNames.filterMap fun (n, o) =>
      if n.toList = text.take 2 then some (n, o, some (String.ofList (text.drop 2)))
      else if text.isPrefixOf n.toList then some (n, o, none)
      else none

/-- Whether a word is a negative number: digits after a hyphen, perhaps with a point before the last of
them, and perhaps a line break at the end. -/
def isNegativeNumber (text : List Char) : Bool :=
  let isDigit (c : Char) : Bool := (Unicode.decimalDigit? c.toNat).isSome
  let text := if text.getLast? = some '\n' then text.dropLast else text
  match text with
  | '-' :: rest =>
    match rest.dropWhile isDigit with
    | [] => !rest.isEmpty
    | '.' :: decimals => !decimals.isEmpty && decimals.all isDigit
    | _ => false
  | _ => false

/-- What a word is that does not stand after the marker. -/
def role (f : Form) (word : String) : Except UsageFault Role :=
  let text := word.toList
  match text with
  | '-' :: _ :: _ =>
    match f.allNames.lookup word with
    | some o => .ok (.option o word none)
    | none =>
      let exact := do
        let (start, value) ← atEquals? text
        let o ← f.allNames.lookup (String.ofList start)
        return Role.option o (String.ofList start) (some (String.ofList value))
      match exact with
      | some r => .ok r
      | none =>
        match f.candidates text with
        | [(name, o, value)] => .ok (.option o name value)
        | [] => .ok (if isNegativeNumber text || text.contains ' ' then .value else .unknownOption)
        | several => .error (.ambiguous word (several.map (·.1)))
  | _ => .ok .value

def classify (f : Form) : List String → Except UsageFault (List Word)
  | [] => .ok []
  | w :: ws =>
    if w = "--" then .ok (⟨w, .marker⟩ :: ws.map fun v => ⟨v, .value⟩)
    else do
      let r ← f.role w
      let rest ← f.classify ws
      return ⟨w, r⟩ :: rest

end Form

structure Arguments where
  /-- The options given, in order. -/
  given : List (OptionForm × Option String) := []
  /-- The positional arguments; one that takes the rest stands for all the words it took. -/
  positionals : List (List String) := []
  unrecognized : List String := []

namespace Arguments

def has (a : Arguments) (o : OptionForm) : Bool := a.given.any (·.1 = o)

/-- The value that was last given for an option. -/
def value? (a : Arguments) (o : OptionForm) : Option String :=
  (a.given.reverse.lookup o).bind id

def give (a : Arguments) (o : OptionForm) (value : Option String) : Except UsageFault Arguments :=
  if o = helpOption then .error .help
  else .ok { a with given := a.given ++ [(o, value)] }

/-- The arguments with one more option and its value, which is one of those offered. -/
def giveValue (a : Arguments) (o : OptionForm) (choices : List String) (value : String) :
    Except UsageFault Arguments :=
  if value = "--" then .error .hollow
  else if value ∈ choices then a.give o (some value)
  else .error (.badChoice o.label value choices)

end Arguments

namespace Form

/-- The words that one positional argument takes, and those that follow. -/
def takeOne? (ws : List Word) : Option (List Word × List Word) :=
  match ws.dropWhile (·.role = .marker) with
  | [] => none
  | w :: rest =>
    if w.isOption then none
    else
      let after := rest.takeWhile (·.role = .marker)
      some (ws.takeWhile (·.role = .marker) ++ w :: after, rest.drop after.length)

/-- The words of the first positional arguments that can be taken together, each with its words, and
those that follow. -/
def takeSlots (takesRest : Bool) : List String → List Word → List (List Word) × List Word
  | [], ws => ([], ws)
  | _ :: slots, ws =>
    match takeOne? ws with
    | none => ([], ws)
    | some (taken, rest) =>
      if takesRest && slots.isEmpty then ([taken ++ rest], [])
      else
        let (more, rest) := takeSlots takesRest slots rest
        (taken :: more, rest)

/-- The words of a positional argument as its value: a single one without the first pair of hyphens. -/
def slotValue (takesRest : Bool) (taken : List Word) : Except UsageFault (List String) :=
  let texts := taken.map (·.text)
  if takesRest then .ok texts
  else match texts.erase "--" with
    | [] => .error .hollow
    | texts => .ok texts

/-- The arguments after the positional ones at the start of the words, and the words that follow. -/
def takePositionals (f : Form) (a : Arguments) (ws : List Word) :
    Except UsageFault (Arguments × List Word) := do
  let (taken, rest) := takeSlots f.takesRest (f.positionals.drop a.positionals.length) ws
  let values ← taken.mapM (slotValue f.takesRest)
  return ({ a with positionals := a.positionals ++ values }, rest)

/-- Options that are written together after one hyphen: `o` is the first of them, and the letters that
follow it are given. -/
def takeLetters (f : Form) (o : OptionForm) (attached : List Char) :
    List Char → Except UsageFault (List (OptionForm × Option String))
  | [] => .ok [(o, none)]
  | c :: rest =>
    match f.allNames.lookup (String.ofList ['-', c]) with
    | none => .error (.valueRefused o (String.ofList attached))
    | some next =>
      match next.choices, rest with
      | none, _ => do
        let more ← f.takeLetters next rest rest
        return (o, none) :: more
      | some _, [] => .error (.valueMissing next)
      | some _, _ => .ok [(o, none), (next, some (String.ofList rest))]

/-- The arguments after an option, and the words that follow. -/
def takeOption (f : Form) (a : Arguments) (o : OptionForm) (name : String) (attached : Option String)
    (ws : List Word) : Except UsageFault (Arguments × List Word) :=
  match o.choices, attached with
  | some choices, some value => (a.giveValue o choices value).map (·, ws)
  | some choices, none =>
    match ws with
    | w :: rest =>
      if w.role = .value then (a.giveValue o choices w.text).map (·, rest)
      else .error (.valueMissing o)
    | [] => .error (.valueMissing o)
  | none, none => (a.give o none).map (·, ws)
  | none, some value =>
    if "--".isPrefixOf name || value = "" then .error (.valueRefused o value)
    else do
      let several ← f.takeLetters o value.toList value.toList
      let a ← several.foldlM (fun a (o, v) => a.give o v) a
      return (a, ws)

def takeAll (f : Form) : Nat → Arguments → List Word → Except UsageFault Arguments
  | 0, a, _ => .ok a
  | fuel + 1, a, ws =>
    if ws.any Word.isOption then
      let before := ws.takeWhile (!·.isOption)
      let option (a : Arguments) (ws : List Word) : Except UsageFault Arguments :=
        match ws with
        | [] => .ok a
        | w :: rest =>
          match w.role with
          | .option o name attached => do
            let (a, rest) ← f.takeOption a o name attached rest
            f.takeAll fuel a rest
          | _ => f.takeAll fuel { a with unrecognized := a.unrecognized ++ [w.text] } rest
      if before.isEmpty then option a ws
      else do
        let (b, rest) ← f.takePositionals a ws
        if rest.length < ws.length then f.takeAll fuel b rest
        else
          option { a with unrecognized := a.unrecognized ++ before.map (·.text) }
            (ws.drop before.length)
    else do
      let (a, rest) ← f.takePositionals a ws
      return { a with unrecognized := a.unrecognized ++ rest.map (·.text) }

/-- The arguments of a command line. Words that fit nowhere are among them. -/
def read (f : Form) (words : List String) : Except UsageFault Arguments := do
  let ws ← f.classify words
  let a ← f.takeAll (ws.length + 1) {} ws
  let absent := f.positionals.drop a.positionals.length
  if absent.isEmpty then return a else throw (.argumentsMissing absent)

end Form

end CommandLine

end RuleRegex
