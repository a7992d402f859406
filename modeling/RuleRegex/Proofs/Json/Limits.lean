import Mathlib.Data.Bool.AllAny
import RuleRegex.Proofs.Json.Accounted
import RuleRegex.Proofs.Json.Written

/-!
# Limits of the reader

A document that is read nests no more deeply than the reader has room for. A document that is not read is
malformed, or it has too many digits in a row, or it nests too deeply for the room. Digits and nesting can
be too many by any amount: digits that are a number of their own, and brackets that only open.
-/

namespace RuleRegex

namespace Json

variable {reserve : Fault → Nat} {depth n : Nat} {room : Room} {s ds : List CodePoint} {d : CodePoint}

/-! ## Within the limits -/

theorem reported_eq_ok {α : Type} {r : Reading α} {a : α × List CodePoint}
    (h : reported reserve depth r = .ok a) : r = .ok a := by
  unfold reported at h
  grind

theorem document_eq_ok {v : Json} {t : List CodePoint} (h : document room s = .ok (v, t)) : t = [] := by
  unfold document at h
  grind [halt]

/-- What is read as a document is nested as the document is. -/
theorem nested_of_document {v : Json} {t : List CodePoint} (h : document room s = .ok (v, t)) :
    Nested room.nesting (outline s) := by
  have hdocument := accounted_document room s
  rw [h] at hdocument
  cases hdocument with
  | read hw hs => rwa [hs, document_eq_ok h, outline_nil, List.append_nil]

/-- **A document is read, or it is malformed, or it exceeds a limit.** -/
theorem read_cases (room : Room) (s : List CodePoint) :
    (∃ v, read s room = .ok v ∧ Nested room.nesting (outline s)) ∨
    (∃ f line column position, read s room = .error (.malformed f line column position)) ∨
    (∃ n, read s room = .error (.tooManyDigits n) ∧ Text.digitLimit < n ∧ LongDigits n s) ∨
    (read s room = .error .tooDeep ∧ Crowded room.reserve room.nesting s) := by
  have hdocument := (accounted_document room s).reported
  rw [read]
  cases hr : reported room.reserve room.nesting (document room s) with
  | ok r => exact .inl ⟨r.1, rfl, nested_of_document (reported_eq_ok hr)⟩
  | error h =>
    rw [hr] at hdocument
    cases hdocument with
    | fault f left => exact .inr (.inl ⟨_, _, _, _, rfl⟩)
    | tooManyDigits hdigits hn => exact .inr (.inr (.inl ⟨_, rfl, hn, hdigits⟩))
    | tooDeep h => exact .inr (.inr (.inr ⟨rfl, h⟩))

/-! ## Beyond the limits -/

/-- One bracket more than may be open. -/
theorem value_openings (reserve : Fault → Nat) (depth : Nat) (s : List CodePoint) :
    value reserve depth (List.replicate (depth + 1) (CodePoint.ofChar '[') ++ s) =
      .error .tooDeep := by
  induction depth with
  | zero => rfl
  | succ depth ih =>
    rw [List.replicate_succ, List.cons_append] at ih
    rw [List.replicate_succ, List.replicate_succ, List.cons_append, List.cons_append, value, array,
      skipBlanks_cons (by decide)]
    simp only [items, ih]
    rfl

/-- Reading stops where the first value stops. -/
theorem read_eq_error {e : Halt} (hblank : isBlank d = false) (hmark : d.val ≠ 0xFEFF)
    (he : value room.reserve room.nesting (d :: s) = .error e) (hreport : ∀ f left, e ≠ .fault f left) :
    read (d :: s) room = .error (failure (d :: s) e) := by
  have hdocument : document room (d :: s) = .error e := by
    simp only [document, skipBlanks_cons hblank, he, hmark, if_false]
  rw [read, hdocument]
  cases e with
  | fault f left => exact absurd rfl (hreport f left)
  | tooManyDigits n => rfl
  | tooDeep => rfl

/-- Brackets that open more arrays than may be nested, whatever follows them. -/
theorem read_openings (h : room.nesting < n) (s : List CodePoint) :
    read (List.replicate n (CodePoint.ofChar '[') ++ s) room = .error .tooDeep := by
  obtain ⟨k, rfl⟩ : ∃ k, n = room.nesting + 1 + k := Nat.exists_eq_add_of_le h
  have hvalue := value_openings room.reserve room.nesting
    (List.replicate k (CodePoint.ofChar '[') ++ s)
  rw [← List.append_assoc, List.replicate_append_replicate, Nat.add_right_comm, List.replicate_succ,
    List.cons_append] at hvalue
  rw [Nat.add_right_comm, List.replicate_succ, List.cons_append]
  exact read_eq_error (by decide) (by decide) hvalue (by simp)

theorem is_of_isDigit {c : Char} (h : isDigit d = true) (hc : isDigit (CodePoint.ofChar c) = false) :
    d.is c = false := by
  rw [← Bool.not_eq_true]
  intro his
  rw [eq_ofChar_of_is his, hc] at h
  cases h

/-- No word begins with a digit. -/
theorem scalar_of_isDigit (h : isDigit d = true) (s : List CodePoint) :
    scalar (d :: s) = number (d :: s) := by
  have hletter : ∀ c ∈ ['n', 't', 'f', 'N', 'I', '-'], isDigit (CodePoint.ofChar c) = false :=
    List.all_iff_forall_prop.1 (by decide)
  have hfirst : ∀ c ∈ ['n', 't', 'f', 'N', 'I', '-'], d.is c = false := fun c hc =>
    is_of_isDigit h (hletter c hc)
  simp [scalar, words, afterWord?, hfirst]

theorem value_of_isDigit (h : isDigit d = true) (s : List CodePoint) :
    value reserve depth (d :: s) = reported reserve depth (number (d :: s)) := by
  have hquote : d.is '"' = false := is_of_isDigit h (by decide)
  have hbracket : d.is '[' = false := is_of_isDigit h (by decide)
  have hbrace : d.is '\x7b' = false := is_of_isDigit h (by decide)
  rw [← scalar_of_isDigit h s]
  unfold value
  simp [hquote, hbracket, hbrace]

/-- Digits that are more than are read. -/
theorem number_digits (hdigit : ∀ p ∈ d :: ds, isDigit p = true) (hzero : d.is '0' = false)
    (hmany : Text.digitLimit < (d :: ds).length) :
    number (d :: ds) = .error (.tooManyDigits (d :: ds).length) := by
  rw [List.forall_mem_cons] at hdigit
  have hminus : d.is '-' = false := is_of_isDigit hdigit.1 (by decide)
  have htake : ds.takeWhile isDigit = ds := List.takeWhile_eq_self_iff.2 hdigit.2
  have hdrop : ds.dropWhile isDigit = [] := List.dropWhile_eq_nil_iff.2 hdigit.2
  simpa [number, hminus, wholeDigits, hzero, hdigit.1, htake, hdrop, fraction, exponent] using hmany

/-- Digits that are more than are read are not read as a document either. -/
theorem read_digits (hdigit : ∀ p ∈ ds, isDigit p = true)
    (hzero : ds.head? ≠ some (CodePoint.ofChar '0')) (hmany : Text.digitLimit < ds.length) :
    read ds room = .error (.tooManyDigits ds.length) := by
  obtain ⟨d, ds, rfl⟩ := List.exists_cons_of_length_pos (Nat.zero_lt_of_lt hmany)
  have hfirst : isDigit d = true := hdigit d List.mem_cons_self
  have hrange := isDigit_iff.1 hfirst
  have hblank : isBlank d = false := by
    simp [isBlank, CodePoint.is]
    omega
  have hd : d.is '0' = false := by
    rw [← Bool.not_eq_true]
    exact fun h => hzero (congrArg some (eq_ofChar_of_is h))
  have hvalue : value room.reserve room.nesting (d :: ds) =
      .error (.tooManyDigits (d :: ds).length) := by
    rw [value_of_isDigit hfirst, number_digits hdigit hd hmany]
    rfl
  exact read_eq_error hblank (by omega) hvalue (by simp)

end Json

end RuleRegex
