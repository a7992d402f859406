import Mathlib.Data.List.Basic
import Mathlib.Data.List.TakeWhile
import RuleRegex.Text.Alphabet

/-!
# ASCII words

The escapes of a pattern are spelled in ASCII, whatever alphabet the pattern is written in. A word is a
list of ASCII codes, and these are an alphabet of their own.

## Main definitions

* `Alphabet.spell` — a word in the symbols of an alphabet.
* `Alphabet.Wide` — a symbol beyond ASCII.
* `Alphabet.Narrow` — a text that does not begin with a symbol beyond ASCII.
-/

namespace RuleRegex

namespace Alphabet

variable {α β : Type} [Alphabet α] [Alphabet β]

instance : Alphabet (Fin 128) where
  code i := i.val
  ofAscii i := i
  code_injective _ _ h := Fin.ext h
  code_ofAscii _ := rfl

theorem ofAscii_injective : Function.Injective (ofAscii (α := α)) := by
  intro i j h
  have hc := congrArg code h
  rw [code_ofAscii, code_ofAscii] at hc
  exact Fin.ext hc

@[simp] theorem ofAscii_ascii (c : Char) : ofAscii (α := α) (ascii c) = ascii c := rfl

@[simp] theorem ofAscii_ofOctal (d : Fin 8) : ofAscii (α := α) (ofOctal d) = ofOctal d := rfl

@[simp] theorem ofAscii_ofHex (d : Fin 16) : ofAscii (α := α) (ofHex d) = ofHex d := by
  unfold ofHex
  split <;> rfl

def spell (w : List (Fin 128)) : List α := w.map ofAscii

@[simp] theorem spell_nil : spell (α := α) [] = [] := rfl

@[simp] theorem spell_cons (i : Fin 128) (w : List (Fin 128)) :
    spell (α := α) (i :: w) = ofAscii i :: spell w := rfl

@[simp] theorem spell_append (v w : List (Fin 128)) :
    spell (α := α) (v ++ w) = spell v ++ spell w := List.map_append

@[simp] theorem length_spell (w : List (Fin 128)) : (spell (α := α) w).length = w.length :=
  List.length_map ..

@[simp] theorem spell_octal (ds : List (Fin 8)) : spell (α := α) (ds.map ofOctal) = ds.map ofOctal := by
  simp [spell]

@[simp] theorem spell_hex (ds : List (Fin 16)) : spell (α := α) (ds.map ofHex) = ds.map ofHex := by
  simp [spell]

@[simp] theorem mem_spell {i : Fin 128} {w : List (Fin 128)} : ofAscii (α := α) i ∈ spell w ↔ i ∈ w :=
  List.mem_map_of_injective ofAscii_injective

/-! ## Single symbols -/

/-- A symbol beyond ASCII. -/
def Wide (a : α) : Prop := 128 ≤ code a

instance (a : α) : Decidable (Wide a) := inferInstanceAs (Decidable (128 ≤ code a))

theorem not_wide_ofAscii (i : Fin 128) : ¬ Wide (ofAscii (α := α) i) := by
  simp [Wide, code_ofAscii]

/-- A symbol is an ASCII symbol unless it is wide. -/
theorem exists_ofAscii {a : α} (h : ¬ Wide a) : ∃ i, a = ofAscii i := by
  have hlt : code a < 128 := Nat.lt_of_not_le h
  exact ⟨⟨code a, hlt⟩, code_injective _ _ (by rw [code_ofAscii])⟩

theorem code_ascii {c : Char} (h : c.toNat < 128) : code (ascii (α := α) c) = c.toNat := by
  rw [ascii, code_ofAscii]
  exact Nat.mod_eq_of_lt h

theorem isAscii_iff {c : Char} {a : α} (h : c.toNat < 128) : isAscii c a = true ↔ a = ascii c := by
  rw [isAscii, beq_iff_eq, ← code_ascii (α := α) h]
  exact ⟨code_injective _ _, congrArg code⟩

theorem octalValue?_eq_some_iff {a : α} {d : Fin 8} : octalValue? a = some d ↔ a = ofOctal d := by
  unfold octalValue?
  constructor
  · intro h
    split at h
    · next hc =>
      obtain rfl := Option.some.inj h
      apply code_injective
      rw [ofOctal, code_ofAscii]
      simp only
      omega
    · cases h
  · rintro rfl
    have hd := d.isLt
    have hc : code (ofOctal (α := α) d) = 48 + d.val := code_ofAscii _
    rw [dif_pos (by omega)]
    simp [hc]

theorem isOctal_iff {a : α} : isOctal a = true ↔ ∃ d, a = ofOctal d := by
  simp only [isOctal, Option.isSome_iff_exists, octalValue?_eq_some_iff]

/-- Different ASCII codes stand for different symbols in every alphabet. -/
theorem ne_of_word {i j : Fin 128} (h : i ≠ j) : ofAscii (α := α) i ≠ ofAscii j :=
  ofAscii_injective.ne h

theorem ofOctal_ne_ascii {c : Char} (h : ∀ d, ofOctal (α := Fin 128) d ≠ ascii c) (d : Fin 8) :
    ofOctal (α := α) d ≠ ascii c := ne_of_word (h d)

/-! ## Runs of wide symbols -/

/-- A text that does not begin with a symbol beyond ASCII. -/
def Narrow (x : List α) : Prop := ∀ a ∈ x.head?, ¬ Wide a

theorem narrow_nil : Narrow ([] : List α) := by simp [Narrow]

theorem narrow_ofAscii (i : Fin 128) (x : List α) : Narrow (ofAscii i :: x) := by
  simpa [Narrow] using not_wide_ofAscii i

theorem Narrow.eq_nil_or {x : List α} (h : Narrow x) : x = [] ∨ ∃ i y, x = ofAscii i :: y := by
  cases x with
  | nil => exact .inl rfl
  | cons a y =>
    obtain ⟨i, rfl⟩ := exists_ofAscii (h a rfl)
    exact .inr ⟨i, y, rfl⟩

/-- Every text is a run of wide symbols and a text that does not begin with one. -/
theorem exists_wide_append (x : List α) :
    ∃ u y, (∀ a ∈ u, Wide a) ∧ Narrow y ∧ x = u ++ y := by
  refine ⟨x.takeWhile (fun a => decide (Wide a)), x.dropWhile (fun a => decide (Wide a)), ?_, ?_, ?_⟩
  · intro a ha
    simpa using List.mem_takeWhile_imp ha
  · intro a ha
    have := List.head?_dropWhile_not (fun a => decide (Wide a)) x
    rw [Option.mem_def.1 ha] at this
    simpa using this
  · exact List.takeWhile_append_dropWhile.symm

theorem ofAscii_notMem_wide {u : List α} (hu : ∀ a ∈ u, Wide a) (i : Fin 128) : ofAscii i ∉ u :=
  fun h => not_wide_ofAscii i (hu _ h)

end Alphabet

end RuleRegex
