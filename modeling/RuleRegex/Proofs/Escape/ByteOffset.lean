import RuleRegex.Proofs.Escape.Position
import RuleRegex.Proofs.Escape.Utf8

/-!
# Positions in characters and in bytes

A position in a text counts characters, and a position in the bytes of the text counts bytes. A pattern
can be converted either way, and its positions go back alike: the scan of the bytes takes one segment
for each byte of a character where the scan of the text takes one for the character, and the segments
that begin with a backslash are the same in both.

## Main definitions

* `Utf8.byteOffset` — the position in bytes of a position in characters.
-/

namespace RuleRegex

open Alphabet

/-! ## Positions in bytes -/

namespace Utf8

/-- How many bytes stand before a position of a text; beyond the end the distance from it is kept. -/
def byteOffset (text : List Char) (k : Nat) : Nat :=
  if k ≤ text.length then (encode (text.take k)).length
  else (encode text).length + (k - text.length)

theorem encode_append (x y : List Char) : encode (x ++ y) = encode x ++ encode y :=
  List.flatMap_append

@[simp] theorem byteOffset_nil (k : Nat) : byteOffset [] k = k := by
  cases k <;> simp [byteOffset, encode]

@[simp] theorem byteOffset_zero (text : List Char) : byteOffset text 0 = 0 := by
  simp [byteOffset, encode]

/-- What stands before the position and is not cut by it counts with all its bytes. -/
theorem byteOffset_append_add (x y : List Char) (k : Nat) :
    byteOffset (x ++ y) (x.length + k) = (encode x).length + byteOffset y k := by
  have htake : (x ++ y).take (x.length + k) = x ++ y.take k := List.take_length_add_append k
  simp only [byteOffset, htake, encode_append, List.length_append]
  grind

/-- In ASCII a position is the same in characters and in bytes. -/
theorem byteOffset_spell_append_of_le {w : List (Fin 128)} {k : Nat} (h : k ≤ w.length) (x : List Char) :
    byteOffset (spell w ++ x) k = k := by
  have hlen : (spell (α := Char) w).length = w.length := length_spell w
  have htake : (spell (α := Char) w ++ x).take k = spell (w.take k) := by
    rw [List.take_append_of_le_length (by omega), spell, spell, List.map_take]
  rw [byteOffset, if_pos (by rw [List.length_append]; omega), htake, encode_spell, length_spell,
    List.length_take]
  omega

theorem byteOffset_spell_append_add (w : List (Fin 128)) (x : List Char) (k : Nat) :
    byteOffset (spell w ++ x) (w.length + k) = w.length + byteOffset x k := by
  have h := byteOffset_append_add (spell w) x k
  rwa [encode_spell, length_spell, length_spell] at h

/-- An ASCII byte stands in the bytes of a text for the character of the same code. -/
theorem ofAscii_mem_encode_iff {i : Fin 128} {text : List Char} :
    ofAscii i ∈ encode text ↔ ofAscii i ∈ text := by
  constructor
  · intro h
    obtain ⟨c, hc, hb⟩ := List.mem_flatMap.1 h
    obtain ⟨j, rfl⟩ := exists_ofAscii fun hw => not_wide_ofAscii i (wide_of_mem_utf8EncodeChar hw hb)
    rw [utf8EncodeChar_ofAscii, List.mem_singleton] at hb
    exact ofAscii_injective hb ▸ hc
  · intro h
    refine List.mem_flatMap.2 ⟨_, h, ?_⟩
    rw [utf8EncodeChar_ofAscii, List.mem_singleton]

end Utf8

/-! ## Going back along a pattern -/

section Along

variable {α : Type} [Alphabet α]

theorem originalPosition_nil (position : Int) : originalPosition ([] : List α) position = position := by
  rw [originalPosition, scan_nil, originIn]

/-- Positions behind text without a backslash go back as they do in what follows that text. -/
theorem originalPosition_append_plain {w : List α} (hw : ascii '\\' ∉ w) (x : List α) (k : Nat) :
    originalPosition (w ++ x) (w.length + k : Nat) = w.length + originalPosition x k := by
  have houtputs : outputs (w.map fun a => .verbatim [a]) = w := by
    simp [outputs, List.flatMap_map, Segment.output]
  have hsources : (w.map fun a => Segment.verbatim [a]).flatMap Segment.source = w := by
    simp [List.flatMap_map, Segment.source]
  have hle : ((outputs (w.map fun a => Segment.verbatim [a])).length : Int) ≤
      (w.length + k : Nat) := by
    rw [houtputs]
    omega
  rw [originalPosition, scan_append_plain hw, originIn_append hle, houtputs, hsources,
    Nat.cast_add, add_sub_cancel_left]
  rfl

namespace Segment.Front

variable {u : Segment (Fin 128)} {x rest : List α}

/-- Positions in what the first segment is written as: all of them go back to the start of an escape,
and one by one to what stands as it is. -/
theorem originalPosition_of_lt (h : u.Front x rest) {k : Nat} (hk : k < u.output.length) :
    originalPosition (ascii '\\' :: x) k = (if u.isEscape then 0 else k : Nat) := by
  have hlt : (k : Int) < (u.spell : Segment α).output.length := by
    rw [Segment.output_spell, length_spell]
    omega
  have hescape : (u.spell : Segment α).isEscape = u.isEscape := by
    cases u <;> rfl
  rw [originalPosition, h.scan_eq, originIn_cons_of_lt hlt, hescape]
  split <;> rfl

/-- Positions behind the first segment go back as they do in what follows the segment. -/
theorem originalPosition_add (h : u.Front x rest) (k : Nat) :
    originalPosition (ascii '\\' :: x) (u.output.length + k : Nat) =
      u.source.length + originalPosition rest k := by
  have houtput : (u.spell : Segment α).output.length = u.output.length := by
    rw [Segment.output_spell, length_spell]
  have hsource : (u.spell : Segment α).source.length = u.source.length := by
    rw [Segment.source_spell, length_spell]
  rw [originalPosition, h.scan_eq, originIn_cons_of_le (by omega), houtput, hsource,
    Nat.cast_add, add_sub_cancel_left]
  rfl

end Segment.Front

end Along

/-! ## Characters and bytes -/

open Utf8

/-- A position of the converted text goes back to a position of the text, and so do the same positions
counted in bytes. -/
def GoesBack (text : List Char) (k r : Nat) : Prop :=
  originalPosition text k = r ∧
    originalPosition (encode text) (byteOffset (convert text) k) = byteOffset text r

namespace GoesBack

variable {x rest : List Char} {u : Segment (Fin 128)} {k r : Nat}

theorem start (text : List Char) : GoesBack text 0 0 := by
  refine ⟨originIn_zero _, ?_⟩
  rw [byteOffset_zero, byteOffset_zero]
  exact originIn_zero _

theorem nil (k : Nat) : GoesBack [] k k := by
  refine ⟨originalPosition_nil k, ?_⟩
  rw [convert_nil, byteOffset_nil]
  exact originalPosition_nil k

/-- A character is one segment of the text, and each of its bytes is one of the bytes. -/
theorem cons {c : Char} (hc : c ≠ ascii '\\') (h : GoesBack x k r) :
    GoesBack (c :: x) (1 + k) (1 + r) := by
  have hplain : ascii '\\' ∉ [c] := by simpa using Ne.symm hc
  have hbytes : ascii '\\' ∉ encode [c] := mt ofAscii_mem_encode_iff.1 hplain
  constructor
  · calc originalPosition ([c] ++ x) ([c].length + k : Nat)
        = [c].length + originalPosition x k := originalPosition_append_plain hplain x k
      _ = (1 + r : Nat) := by rw [h.1]; rfl
  · calc originalPosition (encode ([c] ++ x)) (byteOffset (convert ([c] ++ x)) ([c].length + k))
        = originalPosition (encode [c] ++ encode x)
            ((encode [c]).length + byteOffset (convert x) k : Nat) := by
          rw [convert_append_plain hplain, byteOffset_append_add, encode_append]
      _ = (encode [c]).length + byteOffset x r := by
          rw [originalPosition_append_plain hbytes, h.2]
      _ = byteOffset ([c] ++ x) ([c].length + r) := by
          rw [byteOffset_append_add, Nat.cast_add]

theorem encode_backslash (x : List Char) : encode (ascii '\\' :: x) = ascii '\\' :: encode x :=
  transcoding_encode.cons (ascii '\\') x

/-- What the first segment is written as, and what it is, is ASCII. -/
theorem within (hu : u.Front x rest) (hk : k < u.output.length) :
    GoesBack (ascii '\\' :: x) k (if u.isEscape then 0 else k) := by
  have hr : (if u.isEscape then 0 else k) ≤ u.source.length := by
    cases u with
    | verbatim w => exact Nat.le_of_lt hk
    | escape ds => exact Nat.zero_le _
  refine ⟨hu.originalPosition_of_lt hk, ?_⟩
  rw [hu.convert_eq, byteOffset_spell_append_of_le (Nat.le_of_lt hk), hu.source_eq,
    byteOffset_spell_append_of_le hr, ← hu.source_eq, encode_backslash]
  exact (transcoding_encode.front hu).originalPosition_of_lt hk

/-- Behind a segment positions go back as they do in what follows it. -/
theorem behind (hu : u.Front x rest) (h : GoesBack rest k r) :
    GoesBack (ascii '\\' :: x) (u.output.length + k) (u.source.length + r) := by
  constructor
  · rw [hu.originalPosition_add, h.1, Nat.cast_add]
  · rw [hu.convert_eq, byteOffset_spell_append_add, encode_backslash,
      (transcoding_encode.front hu).originalPosition_add, h.2, hu.source_eq,
      byteOffset_spell_append_add, Nat.cast_add]

end GoesBack

/-- **Positions in characters and in bytes go back alike.** A position of the converted text goes back to
a position of the text, and the same position in the bytes of the converted text goes back to that one
in the bytes of the text, beyond the end too. -/
theorem originalPosition_text_and_bytes (text : List Char) (k : Nat) :
    ∃ r : Nat, originalPosition text k = r ∧
      originalPosition (encode text) (byteOffset (convert text) k) = byteOffset text r := by
  induction text using pattern_induction generalizing k with
  | nil => exact ⟨k, GoesBack.nil k⟩
  | other c x hc ih =>
    cases k with
    | zero => exact ⟨0, GoesBack.start _⟩
    | succ k =>
      obtain ⟨r, h⟩ := ih k
      exact ⟨1 + r, Nat.add_comm 1 k ▸ GoesBack.cons hc h⟩
  | backslash u x rest hu ih =>
    by_cases hk : k < u.output.length
    · exact ⟨_, GoesBack.within hu hk⟩
    · obtain ⟨n, rfl⟩ := Nat.exists_eq_add_of_le (Nat.not_lt.1 hk)
      obtain ⟨r, h⟩ := ih n
      exact ⟨u.source.length + r, GoesBack.behind hu h⟩

/-- Inside the rewritten escape, behind a character of two bytes. -/
example : let text := "é\\o\x7b101\x7d".toList
    originalPosition text 4 = 1 ∧ byteOffset (convert text) 4 = 5 ∧
      originalPosition (encode text) 5 = 2 := by
  decide +kernel

end RuleRegex
