import Mathlib.Data.Bool.AllAny
import RuleRegex.Proofs.Base64.Codec
import RuleRegex.Proofs.Json.Written
import RuleRegex.Proofs.Record.Canonical
import RuleRegex.Source.Document

/-!
# Documents keep their sources

A source is read back from its document, from the text of the document and from its record, whatever
the bytes of its pattern are.
-/

namespace RuleRegex

namespace Document

open Json (Plain points)

/-! ## The members of a document -/

theorem plain_digit : ∀ d : Fin 64, Plain (Base64.digit d) := by
  decide

theorem plain_of_mem_encode {data : Bytes} {c : Char} (h : c ∈ Base64.encode data) : Plain c := by
  rcases Base64.eq_pad_or_digit_of_mem_encode h with rfl | ⟨d, rfl⟩
  · decide
  · exact plain_digit d

theorem plain_of_mem_patternField : ∀ c ∈ patternField.toList, Plain c :=
  List.all_iff_forall_prop.1 (by decide)

theorem plain_of_mem_flagField : ∀ c ∈ flagField.toList, Plain c :=
  List.all_iff_forall_prop.1 (by decide)

/-- Both members of a document are read back. -/
theorem memberReadBack_ofSource (s : Source) {depth : Nat} :
    ∀ m ∈ [(CodePoint.ofString patternField, Json.str (points (Base64.encode s.pattern))),
      (CodePoint.ofString flagField, Json.bool s.caseSensitive)],
      Json.MemberReadBack depth m.1 m.2 := by
  have htext : ∀ c ∈ Base64.encode s.pattern, Plain c := fun _ => plain_of_mem_encode
  simp only [List.forall_mem_cons, List.not_mem_nil, false_implies, implies_true, and_true]
  exact ⟨⟨⟨_, plain_of_mem_patternField, rfl⟩, Json.readBack_str htext depth⟩,
    ⟨⟨_, plain_of_mem_flagField, rfl⟩, Json.readBack_bool s.caseSensitive depth⟩⟩

theorem readBack_ofSource (s : Source) (depth : Nat) : Json.ReadBack (depth + 1) (ofSource s) :=
  Json.readBack_obj (memberReadBack_ofSource s)

/-! ## The text of a document -/

/-- The text of a document, written out. -/
theorem write_eq (s : Source) :
    write s = "\x7b\"reString\": \"".toList ++ Base64.encode s.pattern ++
      "\", \"reCaseSensitive\": ".toList ++ (if s.caseSensitive then "true" else "false").toList ++
      ['\x7d'] := by
  have hpattern : ((Base64.encode s.pattern).map CodePoint.ofChar).flatMap Json.escaped =
      Base64.encode s.pattern := Json.flatMap_escaped fun _ => plain_of_mem_encode
  have hpatternField : (CodePoint.ofString patternField).flatMap Json.escaped = patternField.toList :=
    Json.flatMap_escaped plain_of_mem_patternField
  have hflagField : (CodePoint.ofString flagField).flatMap Json.escaped = flagField.toList :=
    Json.flatMap_escaped plain_of_mem_flagField
  simp only [write, ofSource, Json.ofMembers, List.map_cons, List.map_nil, Json.write, Json.writeMembers,
    Json.quote, hpatternField, hflagField, hpattern]
  cases s.caseSensitive <;> simp [Json.write, patternField, flagField]

/-- The text of a document is printable ASCII on one line. -/
theorem printable_of_mem_write {s : Source} {c : Char} (h : c ∈ write s) :
    32 ≤ c.toNat ∧ c.toNat < 127 := by
  have hopening : ∀ c ∈ "\x7b\"reString\": \"".toList, 32 ≤ c.toNat ∧ c.toNat < 127 :=
    List.all_iff_forall_prop.1 (by decide)
  have hmiddle : ∀ c ∈ "\", \"reCaseSensitive\": ".toList, 32 ≤ c.toNat ∧ c.toNat < 127 :=
    List.all_iff_forall_prop.1 (by decide)
  have hflag : ∀ c ∈ (if s.caseSensitive then "true" else "false").toList,
      32 ≤ c.toNat ∧ c.toNat < 127 := by
    cases s.caseSensitive
    · exact List.all_iff_forall_prop.1 (by decide)
    · exact List.all_iff_forall_prop.1 (by decide)
  rw [write_eq] at h
  simp only [List.mem_append, List.mem_singleton] at h
  obtain (((hc | hc) | hc) | hc) | rfl := h
  · exact hopening c hc
  · have hplain := plain_of_mem_encode hc
    exact ⟨hplain.1, hplain.2.1⟩
  · exact hmiddle c hc
  · exact hflag c hc
  · decide

/-! ## Reading back -/

theorem patternField_ne_flagField :
    CodePoint.ofString patternField ≠ CodePoint.ofString flagField := by
  decide

theorem member?_pattern (s : Source) :
    (ofSource s).member? patternField = some (.str (points (Base64.encode s.pattern))) := by
  have hne := patternField_ne_flagField.symm
  simp [ofSource, Json.ofMembers, Json.member?, Json.lastMember?, hne]

theorem member?_flag (s : Source) :
    (ofSource s).member? flagField = some (.bool s.caseSensitive) := by
  simp [ofSource, Json.ofMembers, Json.member?, Json.lastMember?]

/-- A source is read back from its document. -/
theorem toSource_ofSource (s : Source) : toSource (ofSource s) = .ok s := by
  have hpattern := member?_pattern s
  have hflag := member?_flag s
  rw [ofSource, Json.ofMembers] at hpattern hflag ⊢
  simp only [toSource, hpattern, hflag, Base64.decode_encode]

/-- Room for one object is enough. -/
theorem read_points_write {room : Json.Room} (hroom : 0 < room.nesting) (s : Source) :
    read (points (write s)) room = .ok s := by
  obtain ⟨depth, hdepth⟩ := Nat.exists_eq_add_one_of_ne_zero (Nat.ne_of_gt hroom)
  rw [read, write, Json.read_write (hdepth ▸ readBack_ofSource s depth)]
  simp only [toSource_ofSource]
  rfl

/-- Different sources have different texts. -/
theorem write_injective : Function.Injective write := by
  intro s t h
  have hroom : 0 < (⟨1, fun _ => 0⟩ : Json.Room).nesting := Nat.one_pos
  have hs := read_points_write hroom s
  rw [h, read_points_write hroom t] at hs
  exact (Except.ok.inj hs).symm

/-- **A document loses nothing of its source.** The bytes of a pattern are read back from Base64, a
source from its document and, where there is room for one object, from the text of the document. So
different sources have different texts, and the text says the same as the record, which there is if the
length of the pattern fits. -/
theorem document_lossless :
    (∀ data : Bytes, Base64.decode (points (Base64.encode data)) = .ok data) ∧
    (∀ s : Source, toSource (ofSource s) = .ok s) ∧
    (∀ room : Json.Room, 0 < room.nesting → ∀ s : Source, read (points (write s)) room = .ok s) ∧
    Function.Injective write ∧
    (∀ room : Json.Room, 0 < room.nesting → ∀ s : Source, Record.Short s →
      ∃ t, read (points (write s)) room = .ok t ∧ Record.read (Record.write s) = .ok t) :=
  ⟨Base64.decode_encode, toSource_ofSource, fun _ => read_points_write, write_injective,
    fun _ hroom s h => ⟨s, read_points_write hroom s, Record.read_write h⟩⟩

/-- A pattern that is not UTF-8 and leaves two bytes for the last group, read where one object fits. -/
theorem document_of_malformed_pattern :
    let s : Source := ⟨[0xFF, 0x00, 0x22, 0x5C, 0xC3], false⟩
    let room : Json.Room := ⟨1, fun _ => 2⟩
    0 < room.nesting ∧ Record.Short s ∧
      write s = "\x7b\"reString\": \"/wAiXMM=\", \"reCaseSensitive\": false\x7d".toList ∧
      ∃ t, read (points (write s)) room = .ok t ∧ Record.read (Record.write s) = .ok t := by
  intro s room
  have hshort : Record.Short s := by simp [s, Record.Short]
  have hroom : 0 < room.nesting := Nat.one_pos
  exact ⟨hroom, hshort, by decide +kernel, document_lossless.2.2.2.2 room hroom s hshort⟩

end Document

end RuleRegex
