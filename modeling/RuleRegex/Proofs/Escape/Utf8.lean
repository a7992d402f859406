import RuleRegex.CommandLine.Run
import RuleRegex.Proofs.Escape.Transcoding
import RuleRegex.Proofs.Text.Utf8

/-!
# Conversion of texts and of bytes

A pattern can be converted as a text or as the bytes of one. Either way the result is the same, also
where the bytes are malformed and are shown with replacement characters; and conversion neither mends
nor breaks UTF-8.
-/

namespace RuleRegex

open Alphabet Utf8

/-- **Converted bytes are valid exactly if the bytes were.** -/
theorem valid_convert_iff (p : Bytes) : Valid (convert p) ↔ Valid p := by
  induction p using run_induction with
  | nil => rw [convert_nil]
  | wide u x hu _ hx ih =>
    rw [convert_append_plain (backslash_notMem_wide hu), valid_append_iff hx,
      valid_append_iff (narrow_convert hx), ih]
  | plain i x hi ih =>
    rw [convert_of_ne (ne_of_word hi)]
    exact (valid_spell_append_iff (w := [i])).trans
      (ih.trans (valid_spell_append_iff (w := [i])).symm)
  | backslash u x rest hu ih =>
    rw [hu.convert_eq, hu.source_eq, valid_spell_append_iff, valid_spell_append_iff, ih]

theorem convert_encode (text : List Char) : convert (encode text) = encode (convert text) :=
  (transcoding_encode.convert text).symm

/-- The engine that is given the same bytes whatever it is asked to compile. -/
def Engine.given {Code : Type} (engine : Engine Code) (bytes : Bytes) : Engine Code :=
  { engine with compile := fun _ caseless => engine.compile bytes caseless }

/-- The engine is given the converted pattern and sees nothing else of it. -/
theorem compile_given {Code : Type} (engine : Engine Code) (c : Config) (s : Source) :
    Regex.compile (engine.given (convert s.pattern)) c s = Regex.compile engine c s := rfl

/-- **A pattern is converted alike as a text and as bytes.** Conversion commutes with decoding, whether
the bytes are valid or not, keeps validity both ways, and commutes with encoding. So the line that is
printed for a normalized pattern is, in bytes, what the engine is given for it. -/
theorem convert_text_and_bytes :
    (∀ p : Bytes, decode (convert p) = convert (decode p)) ∧
    (∀ p : Bytes, Valid p ↔ Valid (convert p)) ∧
    (∀ text : List Char, convert (encode text) = encode (convert text)) ∧
    ∀ {Code : Type} (engine : Engine Code) (env : Environment) (room : Json.Room) (verbose : Bool)
      (pattern : String),
      ∃ line, CommandLine.runCommand engine env room verbose (.normalize pattern) =
          .answered (CommandLine.done [line]) ∧
        ∀ c caseSensitive, Regex.compile engine c (.ofText pattern.toList caseSensitive) =
          Regex.compile (engine.given (encode line)) c (.ofText pattern.toList caseSensitive) := by
  refine ⟨transcoding_decode.convert, fun p => (valid_convert_iff p).symm, convert_encode, ?_⟩
  intro Code engine env room verbose pattern
  refine ⟨convert pattern.toList, rfl, ?_⟩
  intro c caseSensitive
  rw [← convert_encode]
  exact (compile_given engine c _).symm

end RuleRegex
