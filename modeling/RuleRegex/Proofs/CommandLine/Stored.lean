import RuleRegex.CommandLine.Run
import RuleRegex.Engine.Standard
import RuleRegex.Proofs.CommandLine.Arguments
import RuleRegex.Proofs.Source.Document
import RuleRegex.Proofs.Text.Hex

/-!
# Encoding and decoding on the command line

What the command for encoding prints is one printable line, and given to the command for decoding it shows
the pattern and the case flag it was made from.

## Main definitions

* `CommandLine.caseWords`, `CommandLine.formatWords` — the words that ask for a case flag and for a form.
* `CommandLine.encoded` — the line that stands for a source.
-/

namespace RuleRegex

namespace CommandLine

variable {Code : Type} {f : Form} {p : String} {c w options : List String} {ignoreCase : Bool}
  {stored : StoredForm}

/-! ## The words of options -/

def caseWords (ignoreCase : Bool) : List (List String) :=
  if ignoreCase then [["-i"], ["--ignore-case"]] else [[]]

def caseGiven (ignoreCase : Bool) : List (OptionForm × Option String) :=
  if ignoreCase then [(ignoreCaseOption, none)] else []

def StoredForm.word : StoredForm → String
  | json => "json"
  | binary => "binary"

/-- The words that ask for a form; JSON goes without saying. -/
def formatWords (stored : StoredForm) : List (List String) :=
  ["--format", stored.word] :: if stored = .json then [[]] else []

theorem spells_caseWords (hshort : f.allNames.lookup "-i" = some ignoreCaseOption)
    (hlong : f.allNames.lookup "--ignore-case" = some ignoreCaseOption) (hc : c ∈ caseWords ignoreCase) :
    f.Spells c (caseGiven ignoreCase) := by
  have hhelp : ignoreCaseOption ≠ helpOption := by decide
  cases ignoreCase with
  | false =>
    obtain rfl : c = [] := by simpa [caseWords] using hc
    exact .nil
  | true =>
    obtain rfl | rfl : c = ["-i"] ∨ c = ["--ignore-case"] := by simpa [caseWords] using hc
    · exact .flag (by decide) (Form.role_of_name rfl hshort) hhelp rfl .nil
    · exact .flag (by decide) (Form.role_of_name rfl hlong) hhelp rfl .nil

/-- The words that ask for a form give it, or nothing if it goes without saying. -/
theorem exists_spells_formatWords (hname : f.allNames.lookup "--format" = some formatOption)
    (hw : w ∈ formatWords stored) :
    ∃ given, f.Spells w given ∧
      (given = [(formatOption, some stored.word)] ∨ given = [] ∧ stored = .json) := by
  have hhelp : formatOption ≠ helpOption := by decide
  obtain rfl | ⟨hjson, rfl⟩ : w = ["--format", stored.word] ∨ stored = .json ∧ w = [] := by
    simpa [formatWords] using hw
  · refine ⟨_, .choice (by decide) (Form.role_of_name rfl hname) hhelp rfl ?_ ?_ .nil, .inl rfl⟩
    · cases stored <;> decide
    · cases stored <;> decide
  · exact ⟨[], .nil, .inr ⟨rfl, hjson⟩⟩

/-! ## Requests -/

/-- A word that the form of the program passes on to the form of the command. -/
def Passed (word : String) : Prop := word ≠ "--" ∧ (programForm.role word).isOk = true

instance (word : String) : Decidable (Passed word) :=
  inferInstanceAs (Decidable (word ≠ "--" ∧ (programForm.role word).isOk = true))

theorem passed_of_mem_caseWords : ∀ b, ∀ c ∈ caseWords b, ∀ word ∈ c, Passed word := by
  decide +kernel

theorem passed_of_mem_formatWords (hw : w ∈ formatWords stored) : ∀ word ∈ w, Passed word := by
  have hjson : ∀ w ∈ formatWords .json, ∀ word ∈ w, Passed word := by decide +kernel
  have hbinary : ∀ w ∈ formatWords .binary, ∀ word ∈ w, Passed word := by decide +kernel
  cases stored with
  | json => exact hjson w hw
  | binary => exact hbinary w hw

def encodeForm : Form := (commandForms.lookup "encode").get rfl

def decodeForm : Form := (commandForms.lookup "decode").get rfl

/-- Words for encoding, with their options in either order, are a request to encode. -/
theorem Request.read_encode (hp : Positional p) (hc : c ∈ caseWords ignoreCase)
    (hw : w ∈ formatWords stored) (hoptions : options = c ++ w ∨ options = w ++ c) :
    Request.read ("encode" :: p :: options) = .ok ⟨.encode p ignoreCase stored, false⟩ := by
  have hcase : encodeForm.Spells c (caseGiven ignoreCase) := spells_caseWords rfl rfl hc
  obtain ⟨formatGiven, hformat, hgives⟩ := exists_spells_formatWords (f := encodeForm) rfl hw
  have hcasePassed := passed_of_mem_caseWords ignoreCase c hc
  have hformatPassed := passed_of_mem_formatWords hw
  have hpassed : ∀ word ∈ options, Passed word := by
    rcases hoptions with rfl | rfl
    · exact List.forall_mem_append.2 ⟨hcasePassed, hformatPassed⟩
    · exact List.forall_mem_append.2 ⟨hformatPassed, hcasePassed⟩
  obtain ⟨words, hclass⟩ := Form.exists_classify hpassed
  obtain ⟨given, hspells, hgiven⟩ : ∃ given, encodeForm.Spells options given ∧
      (given = caseGiven ignoreCase ++ formatGiven ∨ given = formatGiven ++ caseGiven ignoreCase) := by
    rcases hoptions with rfl | rfl
    · exact ⟨_, hcase.append hformat, .inl rfl⟩
    · exact ⟨_, hformat.append hcase, .inr rfl⟩
  refine Request.read_command (by decide) (Form.classify_cons_positional hp hclass) rfl
    (Form.read_of_spells rfl rfl hp hspells) rfl ?_
  -- In each case the options given are spelled out, so the command can be computed.
  rcases hgives with rfl | ⟨rfl, rfl⟩
  · rcases hgiven with rfl | rfl <;> cases ignoreCase <;> cases stored <;> rfl
  · rcases hgiven with rfl | rfl <;> cases ignoreCase <;> rfl

/-- Words for decoding are a request to decode. -/
theorem Request.read_decode (hp : Positional p) (hw : w ∈ formatWords stored) :
    Request.read ("decode" :: p :: w) = .ok ⟨.decode p stored, false⟩ := by
  obtain ⟨given, hspells, hgives⟩ := exists_spells_formatWords (f := decodeForm) rfl hw
  obtain ⟨words, hclass⟩ := Form.exists_classify (passed_of_mem_formatWords hw)
  refine Request.read_command (by decide) (Form.classify_cons_positional hp hclass) rfl
    (Form.read_of_spells rfl rfl hp hspells) rfl ?_
  rcases hgives with rfl | ⟨rfl, rfl⟩
  · cases stored <;> rfl
  · rfl

/-! ## What is printed -/

def encoded (s : Source) : StoredForm → List Char
  | .json => Document.write s
  | .binary => Hex.encode (Record.write s)

theorem printable_of_mem_encoded {s : Source} {x : Char} (h : x ∈ encoded s stored) :
    32 ≤ x.toNat ∧ x.toNat < 127 := by
  cases stored with
  | json => exact Document.printable_of_mem_write h
  | binary => exact Hex.printable_of_mem_encode h

/-- The text is no option: it begins with a brace or a digit. -/
theorem positional_encoded (s : Source) (stored : StoredForm) :
    Positional (String.ofList (encoded s stored)) := by
  rw [Positional, String.toList_ofList]
  cases stored with
  | json => simp [encoded, Document.write_eq]
  | binary =>
    intro h
    obtain ⟨n, hn⟩ := Hex.exists_digit_of_mem_encode (List.mem_of_mem_head? h)
    have hdigit : ∀ n : Fin 16, '-' ≠ Hex.digit n := by decide
    exact hdigit n hn

/-- Encoding prints the text that stands for a source. -/
theorem run_encode (engine : Engine Code) (env : Environment) (room : Json.Room) (hp : Positional p)
    (hc : c ∈ caseWords ignoreCase) (hw : w ∈ formatWords stored)
    (hoptions : options = c ++ w ∨ options = w ++ c) :
    run engine env ("encode" :: p :: options) room =
      .answered (done [encoded (.ofText p.toList !ignoreCase) stored]) := by
  rw [run, Request.read_encode hp hc hw hoptions]
  cases stored <;> rfl

/-- Decoding the text that stands for a source shows the source. -/
theorem runDecode_encoded {room : Json.Room} {s : Source} (hroom : stored = .json → 0 < room.nesting)
    (hs : stored = .binary → Record.Short s) (verbose : Bool) :
    runDecode room verbose (String.ofList (encoded s stored)) stored =
      .answered (done (sourceLines s)) := by
  cases stored with
  | json =>
    have hread : Document.read (CodePoint.ofString (String.ofList (Document.write s))) room = .ok s := by
      rw [CodePoint.ofString, String.toList_ofList]
      exact Document.read_points_write (hroom rfl) s
    simp only [encoded, runDecode, hread]
  | binary =>
    have hread := Record.read_write (hs rfl)
    simp only [encoded, runDecode, String.toList_ofList, Hex.decode_encode, hread]

/-- **Decoding inverts encoding.** For a pattern that is no option, with or without regard to case and in
both forms, encoding prints one line of printable ASCII characters, and decoding that line in the same
form prints how the bytes of the pattern are shown and the case flag. The reader of documents has room
for one object, and a pattern stored in binary has fewer than `2 ^ 63` bytes. -/
theorem decode_inverts_encode (engine : Engine Code) (env : Environment) (room : Json.Room)
    (hp : Positional p) (ignoreCase : Bool) (stored : StoredForm)
    (hroom : stored = .json → 0 < room.nesting)
    (hshort : stored = .binary → (Utf8.encode p.toList).length < 2 ^ 63) :
    ∃ line : List Char, (∀ x ∈ line, 32 ≤ x.toNat ∧ x.toNat < 127) ∧
      (∀ c ∈ caseWords ignoreCase, ∀ w ∈ formatWords stored, ∀ options ∈ [c ++ w, w ++ c],
        run engine env ("encode" :: p :: options) room =
          .answered { exit := 0, output := line ++ ['\n'], log := [] }) ∧
      ∀ w ∈ formatWords stored,
        run engine env ("decode" :: String.ofList line :: w) room =
          .answered
            { exit := 0
              output := "pattern: ".toList ++ Quoted.bytes (Utf8.encode p.toList) ++
                "\ncase_sensitive: ".toList ++ (if ignoreCase then "false" else "true").toList ++ ['\n']
              log := [] } := by
  refine ⟨encoded (.ofText p.toList !ignoreCase) stored, fun x => printable_of_mem_encoded, ?_, ?_⟩
  · intro c hc w hw options hoptions
    rw [run_encode engine env room hp hc hw (by simpa using hoptions)]
    simp [done, lines, exitDone]
  · intro w hw
    have hs : stored = .binary → Record.Short (.ofText p.toList !ignoreCase) := hshort
    rw [run, Request.read_decode (positional_encoded _ stored) hw]
    simp only [runCommand, runDecode_encoded hroom hs]
    cases ignoreCase <;> simp [done, lines, sourceLines, exitDone, Source.ofText]

/-- A pattern with quotes, a line break and a letter beyond ASCII. -/
theorem decode_of_encoded_line_break :
    let p := "\"'\né"
    let room : Json.Room := ⟨1, fun _ => 2⟩
    Positional p ∧ 0 < room.nesting ∧ (Utf8.encode p.toList).length < 2 ^ 63 ∧
    ∃ line : List Char, (∀ x ∈ line, 32 ≤ x.toNat ∧ x.toNat < 127) ∧
      run Engine.standard {} ["encode", p, "--format", "binary", "-i"] room =
        .answered { exit := 0, output := line ++ ['\n'] } ∧
      run Engine.standard {} ["decode", String.ofList line, "--format", "binary"] room =
        .answered
          { exit := 0
            output := "pattern: \"\\'\\n\\xc3\\xa9\ncase_sensitive: false\n".toList } := by
  intro p room
  have hp : Positional p := by decide
  have hroom : 0 < room.nesting := Nat.one_pos
  have hshort : (Utf8.encode p.toList).length < 2 ^ 63 := by decide
  have hshown : Quoted.bytes (Utf8.encode p.toList) = "\"\\'\\n\\xc3\\xa9".toList := by
    decide +kernel
  obtain ⟨line, hline, hencode, hdecode⟩ :=
    decode_inverts_encode Engine.standard {} room hp true .binary (fun _ => hroom) fun _ => hshort
  have hformat : ["--format", "binary"] ∈ formatWords .binary := by decide
  refine ⟨hp, hroom, hshort, line, hline,
    hencode ["-i"] (by decide) _ hformat ["--format", "binary", "-i"] (by decide), ?_⟩
  rw [hdecode _ hformat, hshown]
  rfl

end CommandLine

end RuleRegex
