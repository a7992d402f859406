import RuleRegex.Json.Reader
import RuleRegex.Json.Writer

/-!
# Reading what is written in JSON

A value that is written is read back whatever follows its text: a string whose characters need no
escapes, a word, and an object whose members are read back. The writer sets one blank after each colon
and comma, which the reader skips.

## Main definitions

* `Json.Plain` — a character that stands for itself in a string.
* `Json.ReadBack` — a value whose text is read as the value, whatever follows.
-/

namespace RuleRegex

theorem CodePoint.is_ofChar (c d : Char) : (ofChar d).is c = decide (d = c) := by
  rw [CodePoint.is, Bool.eq_iff_iff, beq_iff_eq, decide_eq_true_iff]
  exact Char.toNat_inj

namespace Json

abbrev points (text : List Char) : List CodePoint := text.map CodePoint.ofChar

/-! ## Strings -/

/-- A character that stands for itself in a string. -/
def Plain (c : Char) : Prop := 32 ≤ c.toNat ∧ c.toNat < 127 ∧ c ≠ '"' ∧ c ≠ '\\'

instance (c : Char) : Decidable (Plain c) :=
  inferInstanceAs (Decidable (32 ≤ c.toNat ∧ c.toNat < 127 ∧ c ≠ '"' ∧ c ≠ '\\'))

theorem Plain.ne_of_lt {c d : Char} (h : Plain c) (hd : d.toNat < 32) : c ≠ d := by
  rintro rfl
  exact absurd h.1 (Nat.not_le.2 hd)

theorem escaped_ofChar {c : Char} (h : Plain c) : escaped (CodePoint.ofChar c) = [c] := by
  have hval : (CodePoint.ofChar c).val = c.toNat := rfl
  have h8 : c.toNat ≠ 8 := by have := h.1; omega
  have h12 : c.toNat ≠ 12 := by have := h.1; omega
  have hn : c ≠ '\n' := h.ne_of_lt (by decide)
  have hr : c ≠ '\r' := h.ne_of_lt (by decide)
  have ht : c ≠ '\t' := h.ne_of_lt (by decide)
  simp [escaped, CodePoint.is_ofChar, h.2.2.1, h.2.2.2, hn, hr, ht, hval, h8, h12, h.1, h.2.1]

theorem flatMap_escaped {text : List Char} (h : ∀ c ∈ text, Plain c) :
    (points text).flatMap escaped = text := by
  induction text with
  | nil => rfl
  | cons c text ih =>
    rw [List.forall_mem_cons] at h
    rw [points, List.map_cons, List.flatMap_cons, ih h.2, escaped_ofChar h.1, List.singleton_append]

/-- A plain text is read up to the quote behind it, and added to what was read before. -/
theorem stringBody_append {text : List Char} (h : ∀ c ∈ text, Plain c) {start fuel : Nat}
    (hfuel : text.length < fuel) (acc rest : List CodePoint) :
    stringBody start fuel acc (points text ++ CodePoint.ofChar '"' :: rest) =
      .ok (acc.reverse ++ points text, rest) := by
  induction text generalizing fuel acc with
  | nil =>
    obtain ⟨fuel, rfl⟩ := Nat.exists_eq_add_one_of_ne_zero (Nat.ne_zero_of_lt hfuel)
    simp [stringBody, CodePoint.is_ofChar]
  | cons c text ih =>
    obtain ⟨fuel, rfl⟩ := Nat.exists_eq_add_one_of_ne_zero (Nat.ne_zero_of_lt hfuel)
    rw [List.forall_mem_cons] at h
    have hrest := ih h.2 (Nat.lt_of_succ_lt_succ hfuel) (CodePoint.ofChar c :: acc)
    have hval : ¬(CodePoint.ofChar c).val < 32 := Nat.not_lt.2 h.1.1
    simp only [points, List.map_cons, List.cons_append, stringBody, CodePoint.is_ofChar, h.1.2.2.1,
      h.1.2.2.2, decide_false, Bool.false_eq_true, if_false, hval]
    rw [hrest]
    simp

/-- **A plain text is read up to its closing quote.** -/
theorem string_append {text : List Char} (h : ∀ c ∈ text, Plain c) (rest : List CodePoint) :
    string (points text ++ CodePoint.ofChar '"' :: rest) = .ok (points text, rest) := by
  rw [string, stringBody_append h (by simp only [List.length_append, List.length_map]; omega)]
  rfl

theorem points_quote {text : List Char} (h : ∀ c ∈ text, Plain c) :
    points (quote (points text)) = CodePoint.ofChar '"' :: (points text ++ [CodePoint.ofChar '"']) := by
  rw [quote, flatMap_escaped h]
  simp [points]

/-! ## Values -/

theorem skipBlanks_cons {p : CodePoint} (h : isBlank p = false) (rest : List CodePoint) :
    skipBlanks (p :: rest) = p :: rest := by
  rw [skipBlanks, List.dropWhile_cons_of_neg (by simp [h])]

/-- A value whose text begins with an ASCII character that is no blank, and is read as the value,
whatever follows, with at most so many arrays and objects around each other. There is nothing to report. -/
structure ReadBack (depth : Nat) (v : Json) : Prop where
  start : ∃ c text, v.write = c :: text ∧ c.toNat < 128 ∧ isBlank (CodePoint.ofChar c) = false
  value : ∀ reserve rest, Json.value reserve depth (points v.write ++ rest) = .ok (v, rest)

theorem ReadBack.skipBlanks_append {depth : Nat} {v : Json} (h : ReadBack depth v)
    (rest : List CodePoint) : skipBlanks (points v.write ++ rest) = points v.write ++ rest := by
  obtain ⟨c, text, htext, -, hblank⟩ := h.start
  rw [htext, points, List.map_cons, List.cons_append, skipBlanks_cons hblank]

theorem readBack_str {text : List Char} (h : ∀ c ∈ text, Plain c) (depth : Nat) :
    ReadBack depth (.str (points text)) where
  start := ⟨'"', _, rfl, by decide, rfl⟩
  value reserve rest := by
    rw [write, points_quote h]
    cases depth <;> simp [Json.value, CodePoint.is_ofChar, string_append h, reported]

theorem readBack_bool (b : Bool) (depth : Nat) : ReadBack depth (.bool b) where
  start := by
    cases b
    · exact ⟨'f', _, rfl, by decide, rfl⟩
    · exact ⟨'t', _, rfl, by decide, rfl⟩
  value reserve rest := by
    cases b <;> cases depth <;> rfl

/-! ## Objects -/

structure MemberReadBack (depth : Nat) (name : List CodePoint) (v : Json) : Prop where
  plain : ∃ text, (∀ c ∈ text, Plain c) ∧ name = points text
  readBack : ReadBack depth v

/-- One member is read, and then what its value is followed by decides. -/
theorem members_cons (reserve : Fault → Nat) {depth : Nat} {name : List CodePoint} {v : Json}
    (h : MemberReadBack depth name v) (fuel : Nat) (acc : List (List CodePoint × Json))
    (rest : List CodePoint) :
    members (value reserve depth) (fuel + 1) acc
        (points (quote name ++ [':', ' '] ++ v.write) ++ rest) =
      match skipBlanks rest with
      | [] => halt .expectedComma []
      | p :: s =>
        if p.is '\x7d' then .ok (.obj ((name, v) :: acc).reverse, s)
        else if p.is ',' then members (value reserve depth) fuel ((name, v) :: acc) (skipBlanks s)
        else halt .expectedComma (p :: s) := by
  obtain ⟨text, htext, rfl⟩ := h.plain
  have hblank : skipBlanks (CodePoint.ofChar ' ' :: (points v.write ++ rest)) =
      points v.write ++ rest := h.readBack.skipBlanks_append rest
  have hcolon := skipBlanks_cons (p := CodePoint.ofChar ':') rfl
    (CodePoint.ofChar ' ' :: (points v.write ++ rest))
  have hstring := string_append htext
    (CodePoint.ofChar ':' :: CodePoint.ofChar ' ' :: (points v.write ++ rest))
  have hsplit : points (quote (points text) ++ [':', ' '] ++ v.write) ++ rest =
      CodePoint.ofChar '"' :: (points text ++ CodePoint.ofChar '"' ::
        CodePoint.ofChar ':' :: CodePoint.ofChar ' ' :: (points v.write ++ rest)) := by
    rw [points, List.map_append, List.map_append, ← points, points_quote htext]
    simp
  rw [hsplit, members]
  cases hrest : skipBlanks rest <;>
    simp only [CodePoint.is_ofChar, hstring, hcolon, hblank, h.readBack.value reserve rest, hrest,
      decide_true, Bool.not_true, Bool.false_eq_true, if_false]

/-- Members are read one after the other up to the closing brace. -/
theorem members_write {reserve : Fault → Nat} {depth : Nat} {name : List CodePoint} {v : Json}
    {ms : List (List CodePoint × Json)} (hfirst : MemberReadBack depth name v)
    (hrest : ∀ m ∈ ms, MemberReadBack depth m.1 m.2) {fuel : Nat} (hfuel : ms.length < fuel)
    (acc : List (List CodePoint × Json)) (rest : List CodePoint) :
    members (value reserve depth) fuel acc
        (points (quote name ++ [':', ' '] ++ v.write ++ writeMembers ms) ++ rest) =
      .ok (.obj (acc.reverse ++ (name, v) :: ms), rest) := by
  induction ms generalizing name v fuel acc with
  | nil =>
    obtain ⟨fuel, rfl⟩ := Nat.exists_eq_add_one_of_ne_zero (Nat.ne_zero_of_lt hfuel)
    have hbrace := skipBlanks_cons (p := CodePoint.ofChar '\x7d') rfl rest
    have hstep := members_cons reserve hfirst fuel acc (points ['\x7d'] ++ rest)
    rw [points, List.map_append, List.append_assoc, writeMembers, hstep]
    simp [hbrace, CodePoint.is_ofChar]
  | cons m ms ih =>
    obtain ⟨fuel, rfl⟩ := Nat.exists_eq_add_one_of_ne_zero (Nat.ne_zero_of_lt hfuel)
    obtain ⟨next, w⟩ := m
    rw [List.forall_mem_cons] at hrest
    have hcomma := skipBlanks_cons (p := CodePoint.ofChar ',') rfl
    have hnext := ih hrest.1 hrest.2 (Nat.lt_of_succ_lt_succ hfuel) ((name, v) :: acc)
    calc
      _ = members (value reserve depth) (fuel + 1) acc (points (quote name ++ [':', ' '] ++ v.write) ++
            CodePoint.ofChar ',' :: CodePoint.ofChar ' ' ::
              (points (quote next ++ [':', ' '] ++ w.write ++ writeMembers ms) ++ rest)) := by
        simp [points, writeMembers]
      _ = members (value reserve depth) fuel ((name, v) :: acc)
            (points (quote next ++ [':', ' '] ++ w.write ++ writeMembers ms) ++ rest) := by
        rw [members_cons reserve hfirst, hcomma]
        rfl
      _ = _ := by
        rw [hnext]
        simp

theorem length_le_writeMembers (ms : List (List CodePoint × Json)) :
    ms.length ≤ (writeMembers ms).length := by
  induction ms with
  | nil => simp
  | cons m ms ih =>
    simp only [writeMembers, List.length_cons, List.length_append]
    omega

/-- **An object is read back if its members are.** -/
theorem readBack_obj {depth : Nat} {ms : List (List CodePoint × Json)}
    (h : ∀ m ∈ ms, MemberReadBack depth m.1 m.2) : ReadBack (depth + 1) (.obj ms) where
  start := by
    cases ms with
    | nil => exact ⟨'\x7b', _, rfl, by decide, rfl⟩
    | cons m ms => exact ⟨'\x7b', _, rfl, by decide, rfl⟩
  value reserve rest := by
    cases ms with
    | nil => rfl
    | cons m ms =>
      obtain ⟨name, v⟩ := m
      rw [List.forall_mem_cons] at h
      have hlength := length_le_writeMembers ms
      let text := points (quote name ++ [':', ' '] ++ v.write ++ writeMembers ms) ++ rest
      have hfuel : ms.length < text.length + 1 := by
        simp only [text, points, List.map_append, List.length_append, List.length_map]
        omega
      -- The text begins with a quote, so the reader sees at once that there is a member.
      have hopened : Json.value reserve (depth + 1) (CodePoint.ofChar '\x7b' :: text) =
          reported reserve depth (members (Json.value reserve depth) (text.length + 1) [] text) := rfl
      exact hopened.trans (congrArg (reported reserve depth) (members_write h.1 h.2 hfuel [] rest))

/-- **A value that is read back whatever follows is read from a document of its own.** -/
theorem read_write {v : Json} {room : Room} (h : ReadBack room.nesting v) :
    read (points v.write) room = .ok v := by
  obtain ⟨c, text, htext, hlt, hblank⟩ := h.start
  have hvalue := h.value room.reserve []
  have hmark : ¬(CodePoint.ofChar c).val = 0xFEFF := by
    change c.toNat ≠ 0xFEFF
    omega
  rw [List.append_nil, htext, points, List.map_cons] at hvalue
  rw [htext, points, List.map_cons, read, document, if_neg hmark, skipBlanks_cons hblank, hvalue]
  rfl

end Json

end RuleRegex
