import Mathlib.Data.List.Infix
import RuleRegex.Json.Reader

/-!
# Outlines of documents

The outline of a text is what is left of it when the contents of its strings are taken out. The brackets
in the outline are those of arrays and objects, so how deeply these are nested can be seen from it without
reading the document, and so can how long its numbers are.

## Main definitions

* `Json.outline` — a text without the contents of its strings.
* `Json.level` — how many arrays and objects are open at the end of an outline.
* `Json.Crowded`, `Json.LongDigits` — a text that nests too deeply for the room there is, and one with so
  many digits in a row.
* `Json.Nested` — an outline whose arrays and objects are closed and nest only so deeply.
-/

namespace RuleRegex

namespace Json

/-! ## Outlines -/

inductive Place where
  | outside
  | inside
  /-- In a string and after a backslash. -/
  | escaped

def outlineFrom : Place → List CodePoint → List CodePoint
  | _, [] => []
  | .outside, p :: s => p :: outlineFrom (if p.is '"' then .inside else .outside) s
  | .inside, p :: s =>
    if p.is '"' then p :: outlineFrom .outside s
    else outlineFrom (if p.is '\\' then .escaped else .inside) s
  | .escaped, _ :: s => outlineFrom .inside s

/-- A text without the contents of its strings. -/
def outline (s : List CodePoint) : List CodePoint := outlineFrom .outside s

def isOpening (p : CodePoint) : Bool := p.is '[' || p.is '\x7b'

def isClosing (p : CodePoint) : Bool := p.is ']' || p.is '\x7d'

/-- How many arrays and objects are open at the end of an outline. -/
def level (w : List CodePoint) : Int := w.countP isOpening - w.countP isClosing

/-- At some place of a text more arrays and objects are open than fit, or so many that the report of some
fault does not fit beside them. -/
def Crowded (reserve : Fault → Nat) (depth : Nat) (s : List CodePoint) : Prop :=
  ∃ w, w <+: outline s ∧ ((depth : Int) < level w ∨ ∃ f, (depth : Int) < level w + reserve f)

/-- So many digits stand in a row in a text, outside of its strings. -/
def LongDigits (n : Nat) (s : List CodePoint) : Prop :=
  ∃ ds, ds <:+: outline s ∧ (∀ p ∈ ds, isDigit p = true) ∧ ds.length = n

@[simp] theorem outline_nil : outline [] = [] := rfl

/-! ## Code points that are no quotes and no brackets -/

/-- A code point that is neither a quote nor a bracket. -/
def Bare (p : CodePoint) : Prop := p.is '"' = false ∧ isOpening p = false ∧ isClosing p = false

instance (p : CodePoint) : Decidable (Bare p) :=
  inferInstanceAs (Decidable (p.is '"' = false ∧ isOpening p = false ∧ isClosing p = false))

theorem bare_iff {p : CodePoint} :
    Bare p ↔ p.val ≠ 34 ∧ p.val ≠ 91 ∧ p.val ≠ 123 ∧ p.val ≠ 93 ∧ p.val ≠ 125 := by
  simp [Bare, isOpening, isClosing, CodePoint.is, and_assoc]

theorem isDigit_iff {p : CodePoint} : isDigit p = true ↔ 48 ≤ p.val ∧ p.val < 58 := by
  simp [isDigit, digit?]

theorem bare_of_isDigit {p : CodePoint} (h : isDigit p = true) : Bare p := by
  rw [bare_iff]
  rw [isDigit_iff] at h
  omega

theorem bare_of_isBlank {p : CodePoint} (h : isBlank p = true) : Bare p := by
  rw [bare_iff]
  simp [isBlank, CodePoint.is] at h
  omega

theorem quote_of_isClosing {p : CodePoint} (h : isClosing p = true) : p.is '"' = false := by
  simp [isClosing, CodePoint.is] at h ⊢
  omega

theorem quote_of_isOpening {p : CodePoint} (h : isOpening p = true) : p.is '"' = false := by
  simp [isOpening, CodePoint.is] at h ⊢
  omega

theorem outline_cons {p : CodePoint} (h : p.is '"' = false) (s : List CodePoint) :
    outline (p :: s) = p :: outline s := by
  simp [outline, outlineFrom, h]

/-- What is bare is copied into the outline. -/
theorem outline_append {w : List CodePoint} (h : ∀ p ∈ w, Bare p) (s : List CodePoint) :
    outline (w ++ s) = w ++ outline s := by
  induction w with
  | nil => rfl
  | cons p w ih =>
    rw [List.forall_mem_cons] at h
    rw [List.cons_append, outline_cons h.1.1, ih h.2, List.cons_append]

/-! ## Levels -/

variable {v w : List CodePoint} {p q : CodePoint} {depth : Nat}

@[simp] theorem level_nil : level [] = 0 := rfl

@[simp] theorem level_append (v w : List CodePoint) : level (v ++ w) = level v + level w := by
  simp only [level, List.countP_append]
  omega

theorem isClosing_of_isOpening (h : isOpening p = true) : isClosing p = false := by
  simp [isOpening, isClosing, CodePoint.is] at h ⊢
  omega

theorem isOpening_of_isClosing (h : isClosing p = true) : isOpening p = false := by
  rw [← Bool.not_eq_true]
  intro hopening
  simp [isClosing_of_isOpening hopening] at h

theorem level_cons_opening (h : isOpening p = true) (w : List CodePoint) :
    level (p :: w) = level w + 1 := by
  simp only [level, List.countP_cons, h, isClosing_of_isOpening h]
  grind

theorem level_closing (h : isClosing p = true) : level [p] = -1 := by
  simp [level, h, isOpening_of_isClosing h]

/-- The level does not change where there are no brackets. -/
theorem level_eq_zero (h : ∀ p ∈ w, isOpening p = false ∧ isClosing p = false) : level w = 0 := by
  have hopening : w.countP isOpening = 0 := List.countP_eq_zero.2 (by grind)
  have hclosing : w.countP isClosing = 0 := List.countP_eq_zero.2 (by grind)
  rw [level, hopening, hclosing]
  rfl

/-! ## Nested outlines -/

/-- An outline whose arrays and objects are closed at its end and nest at most so deeply. -/
structure Nested (depth : Nat) (w : List CodePoint) : Prop where
  closed : level w = 0
  level_le : ∀ u, u <+: w → level u ≤ depth

theorem nested_of_noBrackets (h : ∀ p ∈ w, isOpening p = false ∧ isClosing p = false) :
    Nested depth w where
  closed := level_eq_zero h
  level_le u hu := by
    rw [level_eq_zero fun p hp => h p (hu.subset hp)]
    exact Int.natCast_nonneg depth

theorem nested_of_bare (h : ∀ p ∈ w, Bare p) : Nested depth w :=
  nested_of_noBrackets fun p hp => (h p hp).2

/-- A beginning of one text after another is a beginning of the first, or the first and a beginning of
the other. -/
theorem prefix_append_cases {u : List CodePoint} (h : u <+: v ++ w) :
    u <+: v ∨ ∃ t, u = v ++ t ∧ t <+: w := by
  rcases List.prefix_or_prefix_of_prefix h (List.prefix_append v w) with hu | ⟨t, rfl⟩
  · exact .inl hu
  · exact .inr ⟨t, rfl, (List.prefix_append_right_inj v).1 h⟩

/-- Outlines one after the other nest no more deeply than each of them. -/
theorem Nested.append (hv : Nested depth v) (hw : Nested depth w) : Nested depth (v ++ w) where
  closed := by rw [level_append, hv.closed, hw.closed]; rfl
  level_le u hu := by
    rcases prefix_append_cases hu with hu | ⟨t, rfl, ht⟩
    · exact hv.level_le u hu
    · rw [level_append, hv.closed, Int.zero_add]
      exact hw.level_le t ht

theorem Nested.level_le_closing (hw : Nested depth w) (hq : isClosing q = true) {u : List CodePoint}
    (hu : u <+: w ++ [q]) : level u ≤ depth := by
  rcases List.prefix_concat_iff.1 hu with rfl | hu
  · rw [level_append, hw.closed, level_closing hq]
    omega
  · exact hw.level_le u hu

/-- Brackets around a nested outline nest by one more. -/
theorem Nested.enclosed (hw : Nested depth w) (hp : isOpening p = true) (hq : isClosing q = true) :
    Nested (depth + 1) (p :: (w ++ [q])) where
  closed := by rw [level_cons_opening hp, level_append, hw.closed, level_closing hq]; rfl
  level_le u hu := by
    rcases List.prefix_cons_iff.1 hu with rfl | ⟨t, rfl, ht⟩
    · rw [level_nil]
      omega
    · have hlevel := hw.level_le_closing hq ht
      rw [level_cons_opening hp]
      omega

end Json

end RuleRegex
