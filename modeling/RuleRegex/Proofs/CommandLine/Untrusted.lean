import RuleRegex.Proofs.CommandLine.Stored
import RuleRegex.Proofs.Json.Limits
import RuleRegex.Proofs.Json.Room

/-!
# Decoding untrusted data

Whatever text is given as a document, a source is read from it, or the data has a fault, or the text
exceeds a limit of the reader: the digits of an integer, or the room that the reader has left. A fault of
the data is logged. What exceeds a limit is no fault of the data and ends the program, though the document
may be well formed. All of this holds for every room, and a larger one changes nothing else.

## Main definitions

* `Document.Failure.isFault` — whether a failure is a fault of the data.
* `Document.Exceeds` — a text exceeds the limit that a failure is about.
* `CommandLine.crash` — how the program ends for a failure that is no fault of the data.
-/

namespace RuleRegex

namespace Document

variable {room room' : Json.Room} {text ds : List CodePoint} {n : Nat}

def Failure.isFault : Failure → Bool
  | fault _ => true
  | unread (.malformed _ _ _ _) => true
  | unread (.tooManyDigits _) => false
  | unread .tooDeep => false

/-- A text exceeds the limit that a failure is about. -/
inductive Exceeds (room : Json.Room) (text : List CodePoint) : Failure → Prop where
  | digits {n : Nat} (hdigits : Json.LongDigits n text) (hn : Text.digitLimit < n) :
    Exceeds room text (.unread (.tooManyDigits n))
  | nesting (h : Json.Crowded room.reserve room.nesting text) : Exceeds room text (.unread .tooDeep)

/-- What exceeds a limit is no fault of the data. -/
theorem Exceeds.not_fault {f : Failure} (h : Exceeds room text f) : f.isFault = false := by
  cases h with
  | digits => rfl
  | nesting => rfl

theorem read_of_error {f : Json.Failure} (h : Json.read text room = .error f) :
    read text room = .error (.unread f) := by
  rw [read, h]

/-- **A document is read, or its data has a fault, or it exceeds a limit.** What is read nests no more
deeply than there is room for. -/
theorem read_cases (room : Json.Room) (text : List CodePoint) :
    (∃ s, read text room = .ok s ∧ Json.Nested room.nesting (Json.outline text)) ∨
      ∃ f, read text room = .error f ∧ (f.isFault = true ∨ Exceeds room text f) := by
  rcases Json.read_cases room text with ⟨v, hv, hnested⟩ | ⟨f, line, column, position, hf⟩ |
    ⟨n, hn, hmany, hdigits⟩ | ⟨hdeep, hnesting⟩
  · have hread : read text room = (toSource v).mapError .fault := by rw [read, hv]
    cases hs : toSource v with
    | ok s => exact .inl ⟨s, by rw [hread, hs]; rfl, hnested⟩
    | error f => exact .inr ⟨.fault f, by rw [hread, hs]; rfl, .inl rfl⟩
  · exact .inr ⟨_, read_of_error hf, .inl rfl⟩
  · exact .inr ⟨_, read_of_error hn, .inr (.digits hdigits hmany)⟩
  · exact .inr ⟨_, read_of_error hdeep, .inr (.nesting hnesting)⟩

theorem read_openings (h : room.nesting < n) (rest : List CodePoint) :
    read (List.replicate n (CodePoint.ofChar '[') ++ rest) room = .error (.unread .tooDeep) :=
  read_of_error (Json.read_openings h rest)

theorem read_digits (hdigit : ∀ p ∈ ds, Json.isDigit p = true)
    (hzero : ds.head? ≠ some (CodePoint.ofChar '0')) (hmany : Text.digitLimit < ds.length) :
    read ds room = .error (.unread (.tooManyDigits ds.length)) :=
  read_of_error (Json.read_digits hdigit hzero hmany)

/-- What is made of a document in one room is made of it in a larger one. -/
theorem read_of_within (h : room.Within room') (hread : read text room ≠ .error (.unread .tooDeep)) :
    read text room' = read text room := by
  have hjson : Json.read text room ≠ .error .tooDeep := fun hdeep => hread (read_of_error hdeep)
  rw [read, read, Json.read_of_within h hjson]

end Document

namespace CommandLine

variable {Code : Type} {room : Json.Room} {data : String} {w : List String} {stored : StoredForm}

/-- How the program ends for a failure that is no fault of the data. -/
def crash : Document.Failure → Crash
  | .unread .tooDeep => .tooDeep
  | f => .digits f

/-- Words for decoding run the command for it. -/
theorem run_decode (engine : Engine Code) (env : Environment) (room : Json.Room)
    (hdata : Positional data) (hw : w ∈ formatWords stored) :
    run engine env ("decode" :: data :: w) room = runDecode room false data stored := by
  rw [run, Request.read_decode hdata hw]
  rfl

/-- A fault of the data is logged. -/
theorem runDecode_of_isFault {f : Document.Failure} (hf : f.isFault = true)
    (hread : Document.read (CodePoint.ofString data) room = .error f) (verbose : Bool) :
    runDecode room verbose data .json = .answered (failed f.message verbose) := by
  rw [runDecode, hread]
  cases f with
  | fault f => rfl
  | unread f =>
    cases f with
    | malformed f line column position => rfl
    | tooManyDigits n => cases hf
    | tooDeep => cases hf

/-- A failure that is no fault of the data ends the program. -/
theorem runDecode_of_not_isFault {f : Document.Failure} (hf : f.isFault = false)
    (hread : Document.read (CodePoint.ofString data) room = .error f) (verbose : Bool) :
    runDecode room verbose data .json = .crashed (crash f) := by
  rw [runDecode, hread]
  cases f with
  | fault f => cases hf
  | unread f =>
    cases f with
    | malformed f line column position => cases hf
    | tooManyDigits n => rfl
    | tooDeep => rfl

theorem exit_done_mem (ls : List (List Char)) : (done ls).exit ∈ [exitDone, exitError] := by
  simp [done]

theorem exit_failed_mem (message : String) (verbose : Bool) :
    (failed message verbose).exit ∈ [exitDone, exitError] := by
  simp [failed]

/-- A text that is no option and exceeds a limit ends the program. -/
theorem run_decode_crashed (engine : Engine Code) (env : Environment) {text : List Char}
    {f : Document.Failure} (hfirst : text.head? ≠ some '-') (hf : f.isFault = false)
    (hread : Document.read (Json.points text) room = .error f) :
    run engine env ["decode", String.ofList text] room = .crashed (crash f) := by
  have hdata : Positional (String.ofList text) := by rwa [Positional, String.toList_ofList]
  have hwords : [] ∈ formatWords .json := by decide
  rw [run_decode engine env room hdata hwords]
  apply runDecode_of_not_isFault hf
  rwa [CodePoint.ofString, String.toList_ofList]

/-- Hexadecimal data is always answered. -/
theorem runDecode_binary (room : Json.Room) (verbose : Bool) (data : String) :
    ∃ r, runDecode room verbose data .binary = .answered r ∧ r.exit ∈ [exitDone, exitError] := by
  simp only [runDecode]
  split
  · exact ⟨_, rfl, exit_failed_mem _ verbose⟩
  split
  · exact ⟨_, rfl, exit_done_mem _⟩
  · exact ⟨_, rfl, exit_failed_mem _ verbose⟩

/-- A document is answered, or it exceeds a limit. -/
theorem runDecode_json (room : Json.Room) (verbose : Bool) (data : String) :
    (∃ r, runDecode room verbose data .json = .answered r ∧ r.exit ∈ [exitDone, exitError]) ∨
      ∃ f, Document.read (CodePoint.ofString data) room = .error f ∧
        Document.Exceeds room (CodePoint.ofString data) f ∧
        runDecode room verbose data .json = .crashed (crash f) := by
  rcases Document.read_cases room (CodePoint.ofString data) with
    ⟨s, hs, -⟩ | ⟨f, hf, hfault | hexceeds⟩
  · exact .inl ⟨_, by rw [runDecode, hs], exit_done_mem (sourceLines s)⟩
  · exact .inl ⟨_, runDecode_of_isFault hfault hf verbose, exit_failed_mem f.message verbose⟩
  · exact .inr ⟨f, hf, hexceeds, runDecode_of_not_isFault hexceeds.not_fault hf verbose⟩

/-- **Decoding ends in an answer unless a limit of the reader is exceeded, and there it crashes.** Whatever
room the reader has, every text either gives a source, or a fault of the data, or it has too many digits in
a row or nests too deeply for the room. The command for decoding answers with the code of success or of an
error, except that it crashes in the last case, for documents only. All texts that open more arrays than
there is room for are such a case, and so are all numbers with more digits than are read. The room shows in
nothing but that crash: what is made of a text otherwise is made of it in every larger room. -/
theorem decoding_crashes_only_beyond_limits (engine : Engine Code) (env : Environment)
    (room : Json.Room) :
    (∀ text : List CodePoint,
      (∃ s, Document.read text room = .ok s ∧ Json.Nested room.nesting (Json.outline text)) ∨
        ∃ f, Document.read text room = .error f ∧ (f.isFault = true ∨ Document.Exceeds room text f)) ∧
    (∀ data : String, Positional data → ∀ stored, ∀ w ∈ formatWords stored,
      (∃ r, run engine env ("decode" :: data :: w) room = .answered r ∧
        r.exit ∈ [exitDone, exitError]) ∨
        stored = .json ∧ ∃ f, Document.read (CodePoint.ofString data) room = .error f ∧
          Document.Exceeds room (CodePoint.ofString data) f ∧
          run engine env ("decode" :: data :: w) room = .crashed (crash f)) ∧
    (∀ n, room.nesting < n → ∀ rest, Document.read
      (List.replicate n (CodePoint.ofChar '[') ++ rest) room = .error (.unread .tooDeep)) ∧
    (∀ ds, (∀ p ∈ ds, Json.isDigit p = true) → ds.head? ≠ some (CodePoint.ofChar '0') →
      Text.digitLimit < ds.length →
        Document.read ds room = .error (.unread (.tooManyDigits ds.length))) ∧
    ∀ room', room.Within room' → ∀ text, Document.read text room ≠ .error (.unread .tooDeep) →
      Document.read text room' = Document.read text room := by
  refine ⟨Document.read_cases room, ?_, fun n hn rest => Document.read_openings hn rest,
    fun ds hdigit hzero hmany => Document.read_digits hdigit hzero hmany,
    fun room' h text => Document.read_of_within h⟩
  intro data hdata stored w hw
  rw [run_decode engine env room hdata hw]
  cases stored with
  | json =>
    rcases runDecode_json room false data with hanswered | hcrashed
    · exact .inl hanswered
    · exact .inr ⟨rfl, hcrashed⟩
  | binary => exact .inl (runDecode_binary room false data)

/-- An object without members, and documents one beyond each limit, where two arrays fit and the report of a
fault takes one more. -/
theorem decoding_at_limits :
    let room : Json.Room := ⟨2, fun f => if f = .expectedValue then 0 else 1⟩
    let brackets := CodePoint.ofString "[[[]]]"
    let unclosed := CodePoint.ofString "[[1"
    let digits := List.replicate 4301 (CodePoint.ofChar '7')
    Positional "\x7b\x7d" ∧ [] ∈ formatWords .json ∧
    (∃ r, run Engine.standard {} ["decode", "\x7b\x7d"] room = .answered r ∧
      r.exit ∈ [exitDone, exitError]) ∧
    room.nesting < 3 ∧ Document.read brackets room = .error (.unread .tooDeep) ∧
    Document.read unclosed room = .error (.unread .tooDeep) ∧
    Document.Exceeds room unclosed (.unread .tooDeep) ∧
    Text.digitLimit < digits.length ∧
    Document.read digits room = .error (.unread (.tooManyDigits digits.length)) ∧
    room.Within ⟨3, room.reserve⟩ ∧
    Document.read (CodePoint.ofString "\x7b\x7d") ⟨3, room.reserve⟩ =
      .error (.fault (.missing Document.patternField)) := by
  intro room brackets unclosed digits
  obtain ⟨hcases, hrun, hbrackets, hdigits, hlarger⟩ :=
    decoding_crashes_only_beyond_limits Engine.standard {} room
  have hpositional : Positional "\x7b\x7d" := by decide
  have hwords : [] ∈ formatWords .json := by decide
  have hmissing : Document.read (CodePoint.ofString "\x7b\x7d") room =
      .error (.fault (.missing Document.patternField)) := by
    decide +kernel
  have hunclosed : Document.read unclosed room = .error (.unread .tooDeep) := by
    decide +kernel
  have hdigit : ∀ p ∈ digits, Json.isDigit p = true := by
    intro p hp
    rw [List.eq_of_mem_replicate hp]
    decide
  have hmany : Text.digitLimit < digits.length := by
    rw [List.length_replicate]
    decide
  have hwithin : room.Within ⟨3, room.reserve⟩ := ⟨by decide, fun _ => le_rfl⟩
  refine ⟨hpositional, hwords, ?_, by decide, hbrackets 3 (by decide) (CodePoint.ofString "]]]"),
    hunclosed, ?_, hmany, hdigits digits hdigit (by decide) hmany, hwithin, ?_⟩
  · rcases hrun _ hpositional .json [] hwords with hanswered | ⟨-, f, hf, hexceeds, -⟩
    · exact hanswered
    · cases hmissing.symm.trans hf
      cases hexceeds
  · rcases hcases unclosed with ⟨s, hs, -⟩ | ⟨f, hf, hfault | hexceeds⟩
    · cases hunclosed.symm.trans hs
    · cases hunclosed.symm.trans hf
      cases hfault
    · cases hunclosed.symm.trans hf
      exact hexceeds
  · rw [hlarger _ hwithin _ (by rw [hmissing]; simp), hmissing]

/-- Brackets that are all closed, and a number: documents that are well formed, so that their data has no
fault of form. The number is too long for every reader, and the brackets are too many for every reader with
less room. -/
theorem wellformed_documents_crash :
    let brackets := List.replicate 5000 '[' ++ List.replicate 5000 ']'
    let digits := List.replicate 5000 '1'
    (∀ room : Json.Room, room.nesting < 5000 →
      Document.read (Json.points brackets) room = .error (.unread .tooDeep) ∧
      run Engine.standard {} ["decode", String.ofList brackets] room = .crashed .tooDeep) ∧
    (∀ room : Json.Room,
      Document.read (Json.points digits) room = .error (.unread (.tooManyDigits 5000)) ∧
      run Engine.standard {} ["decode", String.ofList digits] room =
        .crashed (.digits (.unread (.tooManyDigits 5000)))) ∧
    Document.Failure.isFault (.unread .tooDeep) = false ∧
    Document.Failure.isFault (.unread (.tooManyDigits 5000)) = false := by
  intro brackets digits
  refine ⟨fun room hroom => ?_, fun room => ?_, rfl, rfl⟩
  · have hread : Document.read (Json.points brackets) room = .error (.unread .tooDeep) := by
      rw [Json.points, List.map_append, List.map_replicate]
      exact Document.read_openings hroom _
    exact ⟨hread, run_decode_crashed _ _ (by decide) rfl hread⟩
  · have hdigit : ∀ p ∈ Json.points digits, Json.isDigit p = true := by
      rw [Json.points, List.map_replicate]
      intro p hp
      rw [List.eq_of_mem_replicate hp]
      decide
    have hlength : (Json.points digits).length = 5000 := by
      rw [List.length_map, List.length_replicate]
    have hmany : Text.digitLimit < (Json.points digits).length := by
      rw [hlength]
      decide
    have hread : Document.read (Json.points digits) room =
        .error (.unread (.tooManyDigits (Json.points digits).length)) :=
      Document.read_digits hdigit (by decide) hmany
    rw [hlength] at hread
    exact ⟨hread, run_decode_crashed _ _ (by decide) rfl hread⟩

end CommandLine

end RuleRegex
