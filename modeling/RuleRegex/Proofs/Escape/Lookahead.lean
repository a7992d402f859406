import RuleRegex.Escape.Segment
import RuleRegex.Proofs.Text.Ascii

/-!
# What follows a backslash

Each question that the scan asks of the text after a backslash is whether some word without a backslash
is a beginning of it. Two texts that begin alike therefore begin with the same segment, in whatever
alphabets they are written.

## Main definitions

* `BeginAlike` — two texts that begin with the same words.
* `Segment.spell` — a segment of words in the symbols of an alphabet.
* `Segment.Front` — what the scan makes of a backslash before a text.
-/

namespace RuleRegex

open Alphabet

variable {α β : Type} [Alphabet α] [Alphabet β]

/-! ## The questions -/

theorem startsThreeOctal_iff {x : List α} :
    startsThreeOctal x = true ↔ ∃ d e g : Fin 8, [ofOctal d, ofOctal e, ofOctal g] <+: x := by
  match x with
  | [] | [a] | [a, b] => simp [startsThreeOctal, List.cons_prefix_cons]
  | a :: b :: c :: r =>
    simp only [startsThreeOctal, Bool.and_eq_true, isOctal_iff, List.cons_prefix_cons,
      List.nil_prefix, and_true]
    constructor
    · rintro ⟨⟨⟨d, rfl⟩, ⟨e, rfl⟩⟩, ⟨g, rfl⟩⟩
      exact ⟨d, e, g, rfl, rfl, rfl⟩
    · rintro ⟨d, e, g, rfl, rfl, rfl⟩
      exact ⟨⟨⟨d, rfl⟩, ⟨e, rfl⟩⟩, ⟨g, rfl⟩⟩

theorem startsZeroOctal_iff {x : List α} :
    startsZeroOctal x = true ↔
      ∃ d e g : Fin 8, [ascii '0', ofOctal d, ofOctal e, ofOctal g] <+: x := by
  match x with
  | [] => simp [startsZeroOctal]
  | a :: r =>
    simp only [startsZeroOctal, Bool.and_eq_true, isAscii_iff (c := '0') (by decide),
      startsThreeOctal_iff, List.cons_prefix_cons (b := a), eq_comm (a := a), exists_and_left]

theorem startsBrace_iff {x : List α} : startsBrace x = true ↔ [ascii 'o', ascii '\x7b'] <+: x := by
  match x with
  | [] | [a] => simp [startsBrace, List.cons_prefix_cons]
  | a :: b :: r =>
    simp only [startsBrace, Bool.and_eq_true, isAscii_iff (c := 'o') (by decide),
      isAscii_iff (c := '\x7b') (by decide), List.cons_prefix_cons, List.nil_prefix, and_true,
      eq_comm (a := a), eq_comm (a := b)]

theorem untilBrace_eq_some_iff {x inside after : List α} :
    untilBrace x = some (inside, after) ↔
      ascii '\x7d' ∉ inside ∧ x = inside ++ ascii '\x7d' :: after := by
  induction x generalizing inside with
  | nil => simp [untilBrace]
  | cons a r ih =>
    unfold untilBrace
    split
    · next h =>
      obtain rfl := (isAscii_iff (by decide)).1 h
      cases inside with
      | nil => simp [eq_comm]
      | cons b inside => simp +contextual [eq_comm]
    · next h =>
      have ha : a ≠ ascii '\x7d' := mt (isAscii_iff (by decide)).2 h
      cases inside with
      | nil => simp [ha]
      | cons b inside =>
        simp only [Option.map_eq_some_iff, Prod.exists, Prod.mk.injEq, List.cons.injEq,
          List.mem_cons, not_or, List.cons_append]
        constructor
        · rintro ⟨i, t, hi, ⟨rfl, rfl⟩, rfl⟩
          obtain ⟨hb, hr⟩ := ih.1 hi
          exact ⟨⟨ha.symm, hb⟩, rfl, hr⟩
        · rintro ⟨⟨_, hi⟩, rfl, rfl⟩
          exact ⟨inside, after, ih.2 ⟨hi, rfl⟩, ⟨rfl, rfl⟩, rfl⟩

theorem mapM_octalValue?_eq_some_iff {text : List α} {ds : List (Fin 8)} :
    text.mapM octalValue? = some ds ↔ text = ds.map ofOctal := by
  induction text generalizing ds with
  | nil => cases ds <;> simp
  | cons a r ih =>
    simp only [List.mapM_cons, Option.pure_def, Option.bind_eq_bind, Option.bind_eq_some_iff,
      Option.some.injEq, octalValue?_eq_some_iff, ih]
    constructor
    · rintro ⟨d, rfl, es, rfl, rfl⟩
      rfl
    · cases ds with
      | nil => simp
      | cons d es =>
        intro h
        obtain ⟨rfl, rfl⟩ := List.cons.inj h
        exact ⟨d, rfl, es, rfl, rfl⟩

theorem ascii_brace_notMem_octal (ds : List (Fin 8)) : ascii (α := α) '\x7d' ∉ ds.map ofOctal := by
  rintro h
  obtain ⟨d, _, hd⟩ := List.mem_map.1 h
  exact ofOctal_ne_ascii (by decide) d hd

/-- The digits in braces are read exactly if there are some and a closing brace follows them. -/
theorem bracedOctal?_eq_some_iff {x after : List α} {ds : List (Fin 8)} :
    bracedOctal? x = some (ds, after) ↔
      ds ≠ [] ∧ x = ds.map ofOctal ++ ascii '\x7d' :: after := by
  simp only [bracedOctal?, Option.bind_eq_bind, Option.bind_eq_some_iff, Prod.exists,
    untilBrace_eq_some_iff, mapM_octalValue?_eq_some_iff]
  constructor
  · rintro ⟨i, t, ⟨_, rfl⟩, es, rfl, h⟩
    split at h
    · cases h
    · next hne =>
      obtain ⟨rfl, rfl⟩ := Prod.mk.inj (Option.some.inj h)
      exact ⟨by simpa using hne, rfl⟩
  · rintro ⟨hne, rfl⟩
    exact ⟨_, after, ⟨ascii_brace_notMem_octal ds, rfl⟩, ds, rfl, by simp [hne]⟩

/-! ## Texts that begin alike -/

theorem backslash_notMem_octal (ds : List (Fin 8)) : ascii (α := α) '\\' ∉ ds.map ofOctal := by
  intro h
  obtain ⟨d, _, hd⟩ := List.mem_map.1 h
  exact ofOctal_ne_ascii (by decide) d hd

theorem backslash_notMem_zeroOctal (d e g : Fin 8) :
    ascii '\\' ∉ ascii (α := Fin 128) '0' :: [d, e, g].map ofOctal := by
  rw [List.mem_cons, not_or]
  exact ⟨by decide, backslash_notMem_octal _⟩

/-- Two texts begin alike if the same words without a backslash are beginnings of both. -/
def BeginAlike (x : List α) (y : List β) : Prop :=
  ∀ w : List (Fin 128), ascii '\\' ∉ w → (spell w <+: x ↔ spell w <+: y)

section BeginAlike

variable {x : List α} {y : List β}

theorem BeginAlike.refl (x : List α) : BeginAlike x x := fun _ _ => Iff.rfl

theorem BeginAlike.symm (h : BeginAlike x y) : BeginAlike y x := fun w hw => (h w hw).symm

/-- A word that both texts begin with can be taken away. -/
theorem BeginAlike.of_append {w : List (Fin 128)} (hw : ascii '\\' ∉ w)
    (h : BeginAlike (spell w ++ x) (spell w ++ y)) : BeginAlike x y := by
  intro v hv
  have hwv : ascii '\\' ∉ w ++ v := by simp [hw, hv]
  simpa [List.prefix_append_right_inj] using h (w ++ v) hwv

theorem BeginAlike.startsThreeOctal_eq (h : BeginAlike x y) :
    startsThreeOctal x = startsThreeOctal y := by
  rw [Bool.eq_iff_iff, startsThreeOctal_iff, startsThreeOctal_iff]
  refine exists_congr fun d => exists_congr fun e => exists_congr fun g => ?_
  exact h ([d, e, g].map ofOctal) (backslash_notMem_octal _)

theorem BeginAlike.startsZeroOctal_eq (h : BeginAlike x y) :
    startsZeroOctal x = startsZeroOctal y := by
  rw [Bool.eq_iff_iff, startsZeroOctal_iff, startsZeroOctal_iff]
  refine exists_congr fun d => exists_congr fun e => exists_congr fun g => ?_
  exact h (ascii '0' :: [d, e, g].map ofOctal) (backslash_notMem_zeroOctal d e g)

theorem BeginAlike.startsBrace_eq (h : BeginAlike x y) : startsBrace x = startsBrace y := by
  rw [Bool.eq_iff_iff, startsBrace_iff, startsBrace_iff]
  exact h [ascii 'o', ascii '\x7b'] (by decide)

/-- Braced digits stand at the beginning of both texts or of neither, and they are the same. -/
theorem BeginAlike.exists_bracedOctal (h : BeginAlike x y) {ds : List (Fin 8)} {x' : List α}
    (hx : bracedOctal? x = some (ds, x')) : ∃ y', bracedOctal? y = some (ds, y') := by
  obtain ⟨hne, rfl⟩ := bracedOctal?_eq_some_iff.1 hx
  have hw : ascii '\\' ∉ ds.map ofOctal ++ [ascii (α := Fin 128) '\x7d'] := by
    rw [List.mem_append, not_or]
    exact ⟨backslash_notMem_octal ds, by decide⟩
  obtain ⟨y', rfl⟩ := (h _ hw).1 ⟨x', by simp⟩
  exact ⟨y', bracedOctal?_eq_some_iff.2 ⟨hne, by simp⟩⟩

end BeginAlike

/-! ## The segment at a backslash -/

theorem nextSegment_of_ne {a : α} (h : a ≠ ascii '\\') (x : List α) :
    nextSegment a x = (.verbatim [a], x) := by
  have ha : isAscii '\\' a = false := Bool.eq_false_iff.2 (mt (isAscii_iff (by decide)).1 h)
  simp [nextSegment, ha]

/-- What a backslash begins, by what follows it. -/
theorem nextSegment_backslash (x : List α) :
    nextSegment (ascii '\\') x =
      if startsZeroOctal x then (.verbatim (ascii '\\' :: x.take 4), x.drop 4)
      else if startsThreeOctal x then (.verbatim (ascii '\\' :: x.take 3), x.drop 3)
      else if startsBrace x then
        match bracedOctal? (x.drop 2) with
        | some (ds, after) => (.escape ds, after)
        | none => (.verbatim (ascii '\\' :: x.take 2), x.drop 2)
      else (.verbatim [ascii '\\'], x) := by
  have ha : isAscii '\\' (ascii (α := α) '\\') = true := (isAscii_iff (by decide)).2 rfl
  rw [nextSegment, ha]
  rfl

def Segment.spell : Segment (Fin 128) → Segment α
  | .verbatim w => .verbatim (Alphabet.spell w)
  | .escape ds => .escape ds

theorem Segment.source_spell (u : Segment (Fin 128)) :
    (u.spell : Segment α).source = Alphabet.spell u.source := by
  cases u <;> simp [Segment.spell, Segment.source]

theorem Segment.output_spell (u : Segment (Fin 128)) :
    (u.spell : Segment α).output = Alphabet.spell u.output := by
  cases u <;> simp [Segment.spell, Segment.output]

theorem Segment.spell_injective : Function.Injective (Segment.spell (α := α)) := by
  intro u v h
  cases u with
  | verbatim t =>
    cases v with
    | verbatim w => exact congrArg _ (ofAscii_injective.list_map (Segment.verbatim.inj h))
    | escape es => cases h
  | escape ds =>
    cases v with
    | verbatim w => cases h
    | escape es => exact congrArg _ (Segment.escape.inj h)

/-- A segment is at the front of a text if it is what the scan makes of a backslash before the text, and
the text begins with what the segment has after its backslash. -/
def Segment.Front (u : Segment (Fin 128)) (x rest : List α) : Prop :=
  nextSegment (ascii '\\') x = (u.spell, rest) ∧
    ∃ w, u.source = ascii '\\' :: w ∧ ascii '\\' ∉ w ∧ x = Alphabet.spell w ++ rest

theorem front_zeroOctal (d e g : Fin 8) (y : List α) :
    (Segment.verbatim (ascii '\\' :: ascii '0' :: [d, e, g].map ofOctal)).Front
      (ascii '0' :: ([d, e, g].map ofOctal ++ y)) y := by
  have h0 : startsZeroOctal (ascii (α := α) '0' :: ([d, e, g].map ofOctal ++ y)) = true :=
    startsZeroOctal_iff.2 ⟨d, e, g, y, rfl⟩
  refine ⟨?_, _, rfl, backslash_notMem_zeroOctal d e g, rfl⟩
  rw [nextSegment_backslash, if_pos h0]
  rfl

theorem front_threeOctal (d e g : Fin 8) (y : List α)
    (h0 : startsZeroOctal ([d, e, g].map ofOctal ++ y) = false) :
    (Segment.verbatim (ascii '\\' :: [d, e, g].map ofOctal)).Front ([d, e, g].map ofOctal ++ y) y := by
  have h3 : startsThreeOctal ([d, e, g].map (ofOctal (α := α)) ++ y) = true :=
    startsThreeOctal_iff.2 ⟨d, e, g, y, rfl⟩
  refine ⟨?_, _, rfl, backslash_notMem_octal _, rfl⟩
  rw [nextSegment_backslash, h0, if_neg Bool.false_ne_true, if_pos h3]
  rfl

/-- Before an opened brace the scan looks for digits in braces only. -/
theorem nextSegment_opened (y : List α) :
    nextSegment (ascii '\\') (ascii 'o' :: ascii '\x7b' :: y) =
      match bracedOctal? y with
      | some (ds, after) => (.escape ds, after)
      | none => (.verbatim [ascii '\\', ascii 'o', ascii '\x7b'], y) := by
  have ho : ∀ d, ofOctal (α := α) d ≠ ascii 'o' := ofOctal_ne_ascii (by decide)
  have hz : ascii (α := α) '0' ≠ ascii 'o' := ne_of_word (by decide)
  have h0 : startsZeroOctal (ascii (α := α) 'o' :: ascii '\x7b' :: y) ≠ true := by
    simp [startsZeroOctal_iff, List.cons_prefix_cons, hz]
  have h3 : startsThreeOctal (ascii (α := α) 'o' :: ascii '\x7b' :: y) ≠ true := by
    simp [startsThreeOctal_iff, List.cons_prefix_cons, ho]
  have hb : startsBrace (ascii (α := α) 'o' :: ascii '\x7b' :: y) = true :=
    startsBrace_iff.2 ⟨y, rfl⟩
  rw [nextSegment_backslash, if_neg h0, if_neg h3, if_pos hb]
  rfl

theorem front_braced {ds : List (Fin 8)} (hne : ds ≠ []) (y : List α) :
    (Segment.escape ds).Front
      (ascii 'o' :: ascii '\x7b' :: (ds.map ofOctal ++ ascii '\x7d' :: y)) y := by
  refine ⟨?_, _, rfl, ?_, by simp⟩
  · rw [nextSegment_opened, bracedOctal?_eq_some_iff.2 ⟨hne, rfl⟩]
    rfl
  · simp only [List.mem_cons, List.mem_append, not_or]
    exact ⟨by decide, by decide, backslash_notMem_octal ds, by decide⟩

theorem front_unbraced {y : List α} (h : bracedOctal? y = none) :
    (Segment.verbatim [ascii '\\', ascii 'o', ascii '\x7b']).Front
      (ascii 'o' :: ascii '\x7b' :: y) y := by
  refine ⟨?_, [ascii 'o', ascii '\x7b'], rfl, by decide, rfl⟩
  rw [nextSegment_opened, h]
  rfl

theorem front_lone {x : List α} (h0 : startsZeroOctal x = false) (h3 : startsThreeOctal x = false)
    (hb : startsBrace x = false) : (Segment.verbatim [ascii '\\']).Front x x := by
  refine ⟨?_, [], rfl, by simp, rfl⟩
  rw [nextSegment_backslash, h0, h3, hb]
  rfl

theorem BeginAlike.exists_front_brace {x : List α} {y : List β} (h : BeginAlike x y) :
    ∃ u x' y', Segment.Front u (ascii 'o' :: ascii '\x7b' :: x) x' ∧
      Segment.Front u (ascii 'o' :: ascii '\x7b' :: y) y' := by
  cases hx : bracedOctal? x with
  | some p =>
    obtain ⟨ds, x'⟩ := p
    obtain ⟨y', hy⟩ := h.exists_bracedOctal hx
    obtain ⟨hne, rfl⟩ := bracedOctal?_eq_some_iff.1 hx
    obtain ⟨_, rfl⟩ := bracedOctal?_eq_some_iff.1 hy
    exact ⟨_, x', y', front_braced hne x', front_braced hne y'⟩
  | none =>
    have hy : bracedOctal? y = none := by
      by_contra hy
      obtain ⟨⟨ds, y'⟩, hy⟩ := Option.ne_none_iff_exists'.1 hy
      obtain ⟨x', hx'⟩ := h.symm.exists_bracedOctal hy
      cases hx.symm.trans hx'
    exact ⟨_, x, y, front_unbraced hx, front_unbraced hy⟩

/-- Texts that begin alike have the same segment at the front. -/
theorem BeginAlike.exists_front {x : List α} {y : List β} (h : BeginAlike x y) :
    ∃ u x' y', Segment.Front u x x' ∧ Segment.Front u y y' := by
  have h0' := h.startsZeroOctal_eq
  have h3' := h.startsThreeOctal_eq
  have hb' := h.startsBrace_eq
  cases h0 : startsZeroOctal x with
  | true =>
    obtain ⟨d, e, g, x', rfl⟩ := startsZeroOctal_iff.1 h0
    obtain ⟨y', rfl⟩ := (h (ascii '0' :: [d, e, g].map ofOctal) (backslash_notMem_zeroOctal d e g)).1
      ⟨x', rfl⟩
    exact ⟨_, x', y', front_zeroOctal d e g x', front_zeroOctal d e g y'⟩
  | false =>
    cases h3 : startsThreeOctal x with
    | true =>
      obtain ⟨d, e, g, x', rfl⟩ := startsThreeOctal_iff.1 h3
      obtain ⟨y', rfl⟩ := (h ([d, e, g].map ofOctal) (backslash_notMem_octal _)).1 ⟨x', rfl⟩
      exact ⟨_, x', y', front_threeOctal d e g x' h0, front_threeOctal d e g y' (h0'.symm.trans h0)⟩
    | false =>
      cases hb : startsBrace x with
      | true =>
        obtain ⟨x₁, rfl⟩ := startsBrace_iff.1 hb
        obtain ⟨y₁, rfl⟩ := startsBrace_iff.1 (hb'.symm.trans hb)
        exact (h.of_append (w := [ascii 'o', ascii '\x7b']) (by decide)).exists_front_brace
      | false =>
        exact ⟨_, x, y, front_lone h0 h3 hb,
          front_lone (h0'.symm.trans h0) (h3'.symm.trans h3) (hb'.symm.trans hb)⟩

/-- After a backslash there always is a segment at the front. -/
theorem exists_front (x : List α) : ∃ u rest, Segment.Front u x rest := by
  obtain ⟨u, rest, _, hu, _⟩ := (BeginAlike.refl x).exists_front
  exact ⟨u, rest, hu⟩

theorem Segment.Front.eq_of_front {u v : Segment (Fin 128)} {x rest rest' : List α}
    (hu : u.Front x rest) (hv : v.Front x rest') : u = v := by
  have h := congrArg Prod.fst (hu.1.symm.trans hv.1)
  exact Segment.spell_injective h

/-- A segment at the front of a text is at the front of every text that begins alike. -/
theorem Segment.Front.of_beginAlike {u : Segment (Fin 128)} {x rest : List α} {y : List β}
    (hu : u.Front x rest) (h : BeginAlike x y) : ∃ rest', u.Front y rest' := by
  obtain ⟨v, _, rest', hx, hy⟩ := h.exists_front
  exact ⟨rest', hu.eq_of_front hx ▸ hy⟩

/-- What is left after the segment at the front is left over by the words it is made of. -/
theorem Segment.Front.transfer {u : Segment (Fin 128)} {x rest : List α} {y z : List β}
    (hu : u.Front x rest) (h : BeginAlike x y)
    (hy : ∀ w, ascii '\\' ∉ w → x = Alphabet.spell w ++ rest → y = Alphabet.spell w ++ z) :
    u.Front y z := by
  obtain ⟨rest', h'⟩ := hu.of_beginAlike h
  obtain ⟨_, w, hw, hb, hx⟩ := hu
  obtain ⟨_, v, hv, _, hrest⟩ := id h'
  obtain rfl : w = v := List.tail_eq_of_cons_eq (hw.symm.trans hv)
  have hz : rest' = z := List.append_cancel_left (hrest.symm.trans (hy w hb hx))
  exact hz ▸ h'

end RuleRegex
