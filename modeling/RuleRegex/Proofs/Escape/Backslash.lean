import Mathlib.Algebra.Group.Nat.Even
import Mathlib.Data.List.DropRight
import RuleRegex.Proofs.Escape.Converted

/-!
# Backslashes before an escape

The engine reads backslashes in pairs from left to right, so a backslash after an odd number of others
is a literal and begins no escape. The scan does not pair them: it rewrites braced octal digits wherever
they stand, and so it keeps what the engine reads exactly if none of them stand after an odd number of
backslashes.

## Main definitions

* `backslashRun` — how many backslashes a text ends with.
* `pairedScan` — the segments of a pattern when backslashes are paired.
* `Braced` — where a pattern has braced octal digits after a backslash.
* `EscapeAt` — where segments have an escape.
-/

namespace RuleRegex

open Alphabet

variable {α : Type} [Alphabet α]

def backslashRun (text : List α) : Nat := (text.rtakeWhile (isAscii '\\')).length

/-- The digits of the braced octal escape that a backslash before a text begins, and what follows it. -/
def escapeAfter? (x : List α) : Option (List (Fin 8) × List α) :=
  if startsBrace x then bracedOctal? (x.drop 2) else none

theorem length_escapeAfter?_le {x after : List α} {ds : List (Fin 8)}
    (h : escapeAfter? x = some (ds, after)) : after.length ≤ x.length := by
  unfold escapeAfter? at h
  split at h
  · have hle := length_bracedOctal?_le h
    rw [List.length_drop] at hle
    omega
  · cases h

/-- The segment that begins with the given symbol when backslashes are paired, and what follows it: a
backslash that begins no braced octal escape takes the symbol after it along, whatever that is. -/
def pairedSegment (a : α) (x : List α) : Segment α × List α :=
  if !isAscii '\\' a then (.verbatim [a], x)
  else
    match escapeAfter? x with
    | some (ds, after) => (.escape ds, after)
    | none => (.verbatim (a :: x.take 1), x.drop 1)

theorem length_pairedSegment_le (a : α) (x : List α) : (pairedSegment a x).2.length ≤ x.length := by
  unfold pairedSegment
  split
  · exact Nat.le_refl _
  · split
    next h => exact length_escapeAfter?_le h
    · simp

def pairedScan : List α → List (Segment α)
  | [] => []
  | a :: x => (pairedSegment a x).1 :: pairedScan (pairedSegment a x).2
termination_by p => p.length
decreasing_by
  have := length_pairedSegment_le a x
  simp only [List.length_cons]
  omega

/-- A pattern has braced octal digits after a backslash, with these texts before and after them. -/
def Braced (p before : List α) (ds : List (Fin 8)) (after : List α) : Prop :=
  ds ≠ [] ∧ p = before ++ (Segment.escape ds).source ++ after

/-- Segments have an escape with these digits, with these texts before and after it. -/
def EscapeAt (segments : List (Segment α)) (before : List α) (ds : List (Fin 8)) (after : List α) :
    Prop :=
  ∃ l r, segments = l ++ .escape ds :: r ∧ l.flatMap Segment.source = before ∧
    r.flatMap Segment.source = after

/-! ## The scan cuts before every backslash -/

/-- What stands before a backslash begins with the same words whether the text goes on or not. -/
theorem beginAlike_append_backslash (x y : List α) : BeginAlike x (x ++ ascii '\\' :: y) := by
  intro w hw
  constructor
  · intro h
    exact h.trans (List.prefix_append _ _)
  · intro h
    rcases List.prefix_or_prefix_of_prefix h (List.prefix_append _ _) with h' | ⟨t, ht⟩
    · exact h'
    · cases t with
      | nil => simp [← ht]
      | cons b t =>
        rw [← ht, List.prefix_append_right_inj, List.cons_prefix_cons] at h
        have hmem : ascii (α := α) '\\' ∈ spell w := by
          rw [← ht, ← h.1]
          simp
        exact absurd (mem_spell.1 hmem) hw

/-- **No segment reaches over a backslash**, so a pattern can be cut before each of them. -/
theorem scan_append_backslash (x y : List α) :
    scan (x ++ ascii '\\' :: y) = scan x ++ scan (ascii '\\' :: y) := by
  induction x using pattern_induction with
  | nil => simp
  | other a x ha ih => rw [List.cons_append, scan_of_ne ha, scan_of_ne ha, ih, List.cons_append]
  | backslash u x rest hu ih =>
    have hu' : u.Front (x ++ ascii '\\' :: y) (rest ++ ascii '\\' :: y) := by
      apply hu.transfer (beginAlike_append_backslash x y)
      rintro w - rfl
      rw [List.append_assoc]
    rw [List.cons_append, hu'.scan_eq, hu.scan_eq, ih, List.cons_append]

/-- After a backslash an escape is read exactly if the source of one with digits stands there. -/
theorem escapeAfter?_eq_some_iff {x after : List α} {ds : List (Fin 8)} :
    escapeAfter? x = some (ds, after) ↔
      ds ≠ [] ∧ ascii '\\' :: x = (Segment.escape ds).source ++ after := by
  simp only [escapeAfter?, Segment.source, List.cons_append, List.append_assoc, List.nil_append,
    List.cons.injEq, true_and, Option.ite_none_right_eq_some, startsBrace_iff,
    bracedOctal?_eq_some_iff]
  constructor
  · rintro ⟨⟨y, rfl⟩, hne, hy⟩
    exact ⟨hne, by rw [← hy]; rfl⟩
  · rintro ⟨hne, rfl⟩
    exact ⟨⟨_, rfl⟩, hne, rfl⟩

theorem Segment.Front.digits_ne_nil {ds : List (Fin 8)} {x rest : List α}
    (h : (Segment.escape ds).Front x rest) : ds ≠ [] := by
  rintro rfl
  obtain ⟨hnext, w, hw, -, rfl⟩ := h
  obtain rfl := (List.cons.inj hw).2
  have hnone : bracedOctal? (ascii '\x7d' :: rest) = none := by
    rw [Option.eq_none_iff_forall_ne_some]
    rintro ⟨ds, after⟩ hsome
    obtain ⟨hne, hds⟩ := bracedOctal?_eq_some_iff.1 hsome
    obtain ⟨d, es, rfl⟩ := List.exists_cons_of_ne_nil hne
    exact ofOctal_ne_ascii (by decide) d (List.cons.inj hds).1.symm
  have hopened := nextSegment_opened (ascii (α := α) '\x7d' :: rest)
  rw [hnone] at hopened
  cases hopened.symm.trans hnext

/-! ## Escapes and where they stand -/

variable {p x before after : List α} {ds : List (Fin 8)}

/-- Every escape of the scan has digits. -/
theorem digits_ne_nil_of_mem_scan : .escape ds ∈ scan p → ds ≠ [] := by
  induction p using pattern_induction with
  | nil => simp
  | other a x ha ih =>
    rw [scan_of_ne ha, List.mem_cons]
    rintro (h | h)
    · cases h
    · exact ih h
  | backslash u x rest hu ih =>
    rw [hu.scan_eq, List.mem_cons]
    rintro (h | h)
    · cases u with
      | verbatim w => cases h
      | escape es =>
        obtain rfl := Segment.escape.inj h
        exact hu.digits_ne_nil
    · exact ih h

/-- **The scan has an escape wherever braced octal digits stand after a backslash**, and nowhere else. -/
theorem escapeAt_scan_iff : EscapeAt (scan p) before ds after ↔ Braced p before ds after := by
  constructor
  · rintro ⟨l, r, hp, rfl, rfl⟩
    refine ⟨digits_ne_nil_of_mem_scan (p := p) (by simp [hp]), ?_⟩
    have hsource := flatMap_source_scan p
    simpa [hp] using hsource.symm
  · rintro ⟨hne, rfl⟩
    refine ⟨scan before, scan after, ?_, flatMap_source_scan before, flatMap_source_scan after⟩
    have hcut := scan_append_backslash before
      (ascii 'o' :: ascii '\x7b' :: (ds.map ofOctal ++ ascii '\x7d' :: after))
    rw [(front_braced hne after).scan_eq] at hcut
    simpa [Segment.source, Segment.spell] using hcut

/-! ## Pairs -/

theorem pairedScan_of_ne {a : α} (h : a ≠ ascii '\\') (x : List α) :
    pairedScan (a :: x) = .verbatim [a] :: pairedScan x := by
  have ha : isAscii '\\' a = false := Bool.eq_false_iff.2 (mt (isAscii_iff (by decide)).1 h)
  simp [pairedScan, pairedSegment, ha]

/-- With paired backslashes too an escape is a segment of its own. -/
theorem pairedScan_escape (hne : ds ≠ []) (x : List α) :
    pairedScan ((Segment.escape ds).source ++ x) = .escape ds :: pairedScan x := by
  have ha : isAscii '\\' (ascii (α := α) '\\') = true := (isAscii_iff (by decide)).2 rfl
  have hafter : escapeAfter? (ascii 'o' :: ascii '\x7b' :: (ds.map ofOctal ++ ascii '\x7d' :: x)) =
      some (ds, x) := escapeAfter?_eq_some_iff.2 ⟨hne, by simp [Segment.source]⟩
  simp [Segment.source, pairedScan, pairedSegment, ha, hafter]

/-- A backslash that begins no escape takes the next symbol along. -/
theorem pairedScan_pair (h : escapeAfter? x = none) :
    pairedScan (ascii '\\' :: x) = .verbatim (ascii '\\' :: x.take 1) :: pairedScan (x.drop 1) := by
  have ha : isAscii '\\' (ascii (α := α) '\\') = true := (isAscii_iff (by decide)).2 rfl
  simp [pairedScan, pairedSegment, ha, h]

/-- Induction along a pattern whose backslashes are paired. -/
theorem paired_induction {motive : List α → Prop} (nil : motive [])
    (other : ∀ a x, a ≠ ascii '\\' → motive x → motive (a :: x))
    (escape : ∀ ds x, ds ≠ [] → motive x → motive ((Segment.escape ds).source ++ x))
    (pair : ∀ x, escapeAfter? x = none → motive (x.drop 1) → motive (ascii '\\' :: x))
    (p : List α) : motive p := by
  induction h : p.length using Nat.strongRecOn generalizing p with
  | ind n ih =>
    subst h
    cases p with
    | nil => exact nil
    | cons a x =>
      by_cases ha : a = ascii '\\'
      · subst ha
        cases hx : escapeAfter? x with
        | none =>
          have hlt : (x.drop 1).length < (ascii '\\' :: x).length := by
            rw [List.length_drop, List.length_cons]
            omega
          exact pair x hx (ih _ hlt _ rfl)
        | some q =>
          obtain ⟨ds, after⟩ := q
          obtain ⟨hne, hsource⟩ := escapeAfter?_eq_some_iff.1 hx
          have hlt := Nat.lt_succ_of_le (length_escapeAfter?_le hx)
          rw [hsource]
          exact escape ds after hne (ih _ hlt _ rfl)
      · exact other a x ha (ih _ (by simp) _ rfl)

/-! ## Counting backslashes -/

theorem backslashRun_eq (v : List α) :
    backslashRun v = (v.reverse.takeWhile (isAscii '\\')).length := List.length_reverse

theorem backslashRun_le (v : List α) : backslashRun v ≤ v.length := by
  rw [backslashRun_eq]
  exact (List.takeWhile_prefix _).length_le.trans (Nat.le_of_eq List.length_reverse)

theorem backslashRun_cons (a : α) (v : List α) :
    backslashRun (a :: v) =
      if isAscii '\\' a ∧ backslashRun v = v.length then v.length + 1 else backslashRun v := by
  rw [backslashRun_eq, backslashRun_eq, List.reverse_cons, List.takeWhile_append, List.length_reverse]
  by_cases hv : (v.reverse.takeWhile (isAscii '\\')).length = v.length
  · cases ha : isAscii '\\' a <;> simp [ha, hv]
  · simp [hv]

/-- Backslashes before another symbol do not count. -/
theorem backslashRun_append_of_ne {a : α} (h : a ≠ ascii '\\') (u v : List α) :
    backslashRun (u ++ a :: v) = backslashRun v := by
  have ha : isAscii '\\' a ≠ true := mt (isAscii_iff (by decide)).1 h
  have hle := backslashRun_le v
  induction u with
  | nil => rw [List.nil_append, backslashRun_cons, if_neg (fun hc => ha hc.1)]
  | cons b u ih =>
    rw [List.cons_append, backslashRun_cons, ih, if_neg]
    rintro ⟨-, hlen⟩
    simp only [List.length_append, List.length_cons] at hlen
    omega

/-- A pair does not change whether the number of backslashes is even. -/
theorem even_backslashRun_pair (b : α) (v : List α) :
    Even (backslashRun (ascii '\\' :: b :: v)) ↔ Even (backslashRun v) := by
  by_cases hb : b = ascii '\\'
  · have hascii : isAscii '\\' (ascii (α := α) '\\') = true := (isAscii_iff (by decide)).2 rfl
    have hle := backslashRun_le v
    rw [hb, backslashRun_cons, backslashRun_cons, hascii, List.length_cons]
    by_cases hv : backslashRun v = v.length
    · simp [hv, Nat.even_add_one]
    · have hne : backslashRun v ≠ v.length + 1 := by omega
      simp [hv, hne]
  · exact iff_of_eq (congrArg Even (backslashRun_append_of_ne hb [ascii '\\'] v))

theorem not_even_backslashRun_backslash : ¬Even (backslashRun [ascii (α := α) '\\']) := by
  have hascii : isAscii '\\' (ascii (α := α) '\\') = true := (isAscii_iff (by decide)).2 rfl
  rw [backslashRun_cons, if_pos ⟨hascii, rfl⟩]
  exact Nat.not_even_one

/-! ## Escapes one after the other -/

/-- An escape among segments is the first of them, or it stands among the others. -/
theorem escapeAt_cons_iff {s : Segment α} {segments : List (Segment α)} :
    EscapeAt (s :: segments) before ds after ↔
      (s = .escape ds ∧ before = [] ∧ segments.flatMap Segment.source = after) ∨
        ∃ before', before = s.source ++ before' ∧ EscapeAt segments before' ds after := by
  constructor
  · rintro ⟨l, r, h, rfl, rfl⟩
    cases l with
    | nil =>
      obtain ⟨rfl, rfl⟩ := List.cons.inj h
      exact .inl ⟨rfl, rfl, rfl⟩
    | cons t l =>
      obtain ⟨rfl, rfl⟩ := List.cons.inj h
      exact .inr ⟨_, List.flatMap_cons, l, r, rfl, rfl, rfl⟩
  · rintro (⟨rfl, rfl, rfl⟩ | ⟨_, rfl, l, r, rfl, rfl, rfl⟩)
    · exact ⟨[], segments, rfl, rfl, rfl⟩
    · exact ⟨s :: l, r, rfl, List.flatMap_cons, rfl⟩

/-- A braced escape begins with the first symbol, or it stands in what follows. -/
theorem braced_cons_iff {a : α} :
    Braced (a :: x) before ds after ↔
      (a = ascii '\\' ∧ before = [] ∧ escapeAfter? x = some (ds, after)) ∨
        ∃ before', before = a :: before' ∧ Braced x before' ds after := by
  rw [escapeAfter?_eq_some_iff]
  constructor
  · rintro ⟨hne, h⟩
    cases before with
    | nil =>
      obtain ⟨rfl, -⟩ := List.cons.inj h
      exact .inl ⟨rfl, rfl, hne, h⟩
    | cons b before =>
      obtain ⟨rfl, rfl⟩ := List.cons.inj h
      exact .inr ⟨before, rfl, hne, rfl⟩
  · rintro (⟨rfl, rfl, hne, h⟩ | ⟨before', rfl, hne, rfl⟩)
    · exact ⟨hne, h⟩
    · exact ⟨hne, rfl⟩

/-- No braced escape begins in a text without backslashes. -/
theorem braced_append_plain_iff {w : List α} (hw : ascii '\\' ∉ w) :
    Braced (w ++ x) before ds after ↔ ∃ before', before = w ++ before' ∧ Braced x before' ds after := by
  induction w generalizing before with
  | nil => simp
  | cons a w ih =>
    rw [List.mem_cons, not_or] at hw
    simp only [List.cons_append, braced_cons_iff, ih hw.2, Ne.symm hw.1, false_and, false_or]
    constructor
    · rintro ⟨_, rfl, before', rfl, h⟩
      exact ⟨before', rfl, h⟩
    · rintro ⟨before', rfl, h⟩
      exact ⟨_, rfl, before', rfl, h⟩

theorem backslash_notMem_body (ds : List (Fin 8)) :
    ascii (α := α) '\\' ∉ ascii 'o' :: ascii '\x7b' :: (ds.map ofOctal ++ [ascii '\x7d']) := by
  have hds : ascii (α := α) '\\' ∉ ds.map ofOctal := by
    rw [← spell_octal]
    exact mt mem_spell.1 (backslash_notMem_octal ds)
  simp only [List.mem_cons, List.mem_append, List.not_mem_nil, or_false, not_or]
  exact ⟨ne_of_word (by decide), ne_of_word (by decide), hds, ne_of_word (by decide)⟩

/-- A braced escape ends with no backslash, so only those behind it count. -/
theorem backslashRun_source_append (ds : List (Fin 8)) (v : List α) :
    backslashRun ((Segment.escape ds).source ++ v) = backslashRun v := by
  have hne : ascii (α := α) '\x7d' ≠ ascii '\\' := ne_of_word (by decide)
  have h := backslashRun_append_of_ne hne
    (ascii '\\' :: ascii 'o' :: ascii '\x7b' :: ds.map ofOctal) v
  simpa [Segment.source] using h

/-- Braced digits at the front of a text are the first that it has. -/
theorem braced_source_append_iff {es : List (Fin 8)} (hne : es ≠ []) :
    Braced ((Segment.escape es).source ++ x) before ds after ↔
      (Segment.escape (α := α) es = .escape ds ∧ before = [] ∧ x = after) ∨
        ∃ before', before = (Segment.escape es).source ++ before' ∧ Braced x before' ds after := by
  obtain ⟨w, hw, hb⟩ : ∃ w : List α, (Segment.escape es).source = ascii '\\' :: w ∧ ascii '\\' ∉ w :=
    ⟨_, rfl, backslash_notMem_body es⟩
  have hsome : escapeAfter? (w ++ x) = some (es, x) :=
    escapeAfter?_eq_some_iff.2 ⟨hne, by rw [hw]; rfl⟩
  rw [hw, List.cons_append, braced_cons_iff, hsome]
  simp only [braced_append_plain_iff hb, Option.some.injEq, Prod.mk.injEq, Segment.escape.injEq,
    true_and, List.cons_append]
  constructor
  · rintro (⟨rfl, rfl, rfl⟩ | ⟨_, rfl, before', rfl, h⟩)
    · exact .inl ⟨rfl, rfl, rfl⟩
    · exact .inr ⟨before', rfl, h⟩
  · rintro (⟨rfl, rfl, rfl⟩ | ⟨before', rfl, h⟩)
    · exact .inl ⟨rfl, rfl, rfl⟩
    · exact .inr ⟨_, rfl, before', rfl, h⟩

theorem flatMap_source_pairedScan (p : List α) : (pairedScan p).flatMap Segment.source = p := by
  induction p using paired_induction with
  | nil => simp [pairedScan]
  | other a x ha ih => simp [pairedScan_of_ne ha, ih, Segment.source]
  | escape ds x hne ih => rw [pairedScan_escape hne, List.flatMap_cons, ih]
  | pair x hx ih =>
    rw [pairedScan_pair hx, List.flatMap_cons, ih, Segment.source, List.cons_append,
      List.take_append_drop]

/-- **Pairing leaves the escapes that stand after an even number of backslashes**, and no others. -/
theorem escapeAt_pairedScan_iff :
    EscapeAt (pairedScan p) before ds after ↔
      Braced p before ds after ∧ Even (backslashRun before) := by
  induction p using paired_induction generalizing before with
  | nil => simp [EscapeAt, pairedScan, Braced, Segment.source]
  | other a x ha ih =>
    have hrun (v : List α) : backslashRun (a :: v) = backslashRun v :=
      backslashRun_append_of_ne ha [] v
    rw [pairedScan_of_ne ha, escapeAt_cons_iff, braced_cons_iff]
    simp only [ih, ha, Segment.source, List.singleton_append, reduceCtorEq, false_and, false_or]
    constructor
    · rintro ⟨before', rfl, h, heven⟩
      exact ⟨⟨before', rfl, h⟩, (hrun before').symm ▸ heven⟩
    · rintro ⟨⟨before', rfl, h⟩, heven⟩
      exact ⟨before', rfl, h, hrun before' ▸ heven⟩
  | escape es x hne ih =>
    rw [pairedScan_escape hne, escapeAt_cons_iff, braced_source_append_iff hne,
      flatMap_source_pairedScan]
    simp only [ih]
    constructor
    · rintro (⟨hds, rfl, hx⟩ | ⟨before', rfl, h, heven⟩)
      · exact ⟨.inl ⟨hds, rfl, hx⟩, by simp [backslashRun]⟩
      · exact ⟨.inr ⟨before', rfl, h⟩, (backslashRun_source_append es before').symm ▸ heven⟩
    · rintro ⟨⟨hds, rfl, hx⟩ | ⟨before', rfl, h⟩, heven⟩
      · exact .inl ⟨hds, rfl, hx⟩
      · exact .inr ⟨before', rfl, h, backslashRun_source_append es before' ▸ heven⟩
  | pair x hx ih =>
    rw [pairedScan_pair hx, escapeAt_cons_iff, braced_cons_iff, hx]
    simp only [ih, Segment.source, reduceCtorEq, false_and, and_false, false_or]
    cases x with
    | nil => simp [Braced, Segment.source]
    | cons b x =>
      simp only [List.take_succ_cons, List.take_zero, List.drop_succ_cons, List.drop_zero,
        List.cons_append, List.nil_append, braced_cons_iff (x := x)]
      constructor
      · rintro ⟨before', rfl, h, heven⟩
        exact ⟨⟨_, rfl, .inr ⟨before', rfl, h⟩⟩, (even_backslashRun_pair b before').2 heven⟩
      · rintro ⟨⟨_, rfl, ⟨rfl, rfl, h⟩ | ⟨before', rfl, h⟩⟩, heven⟩
        · -- The second backslash of a pair begins no escape: it stands after one other.
          exact absurd heven not_even_backslashRun_backslash
        · exact ⟨before', rfl, h, (even_backslashRun_pair b before').1 heven⟩

theorem convert_of_escapeAfter?_eq_none (h : escapeAfter? x = none) :
    convert (ascii '\\' :: x) = ascii '\\' :: convert x := by
  obtain ⟨u, rest, hu⟩ := exists_front x
  have hsource := hu.source_eq
  have hconvert := hu.convert_eq
  cases u with
  | verbatim text =>
    obtain ⟨-, w, hw, hb, rfl⟩ := hu
    rw [Segment.source] at hw
    rw [hconvert, Segment.output, hw, convert_append_plain (backslash_notMem_spell hb)]
    rfl
  | escape ds =>
    rw [← Segment.source_spell] at hsource
    have hsome := escapeAfter?_eq_some_iff.2 ⟨hu.digits_ne_nil, hsource⟩
    rw [h] at hsome
    cases hsome

theorem Braced.append_left {u : List α} (h : Braced x before ds after) :
    Braced (u ++ x) (u ++ before) ds after := ⟨h.1, by rw [h.2]; simp⟩

/-- Where all braced digits stand after an even number of backslashes, the scan rewrites what it would
rewrite if it paired them. -/
theorem convert_eq_outputs_pairedScan
    (h : ∀ before ds after, Braced p before ds after → Even (backslashRun before)) :
    convert p = outputs (pairedScan p) := by
  induction p using paired_induction with
  | nil => simp [pairedScan, outputs]
  | other a x ha ih =>
    have hrest := ih fun before ds after hx =>
      backslashRun_append_of_ne ha [] before ▸ h _ _ _ (hx.append_left (u := [a]))
    rw [convert_of_ne ha, hrest, pairedScan_of_ne ha]
    rfl
  | escape es x hne ih =>
    have hrest := ih fun before ds after hx =>
      backslashRun_source_append es before ▸ h _ _ _ hx.append_left
    have hfront := (front_braced hne x).convert_eq
    rw [← Segment.output_spell, hrest] at hfront
    rw [pairedScan_escape hne]
    simpa [Segment.source, Segment.spell, outputs] using hfront
  | pair x hx ih =>
    rw [convert_of_escapeAfter?_eq_none hx, pairedScan_pair hx]
    cases x with
    | nil => simp [pairedScan, outputs, Segment.output]
    | cons b x =>
      have hrest := ih fun before ds after hx =>
        (even_backslashRun_pair b before).1 (h _ _ _ (hx.append_left (u := [ascii '\\', b])))
      have hsecond : convert (b :: x) = b :: convert x := by
        by_cases hb : b = ascii '\\'
        · subst hb
          apply convert_of_escapeAfter?_eq_none
          rw [Option.eq_none_iff_forall_ne_some]
          rintro ⟨ds, after⟩ hsome
          have hbraced : Braced (ascii '\\' :: ascii '\\' :: x) [ascii '\\'] ds after :=
            braced_cons_iff.2 (.inr ⟨[], rfl, braced_cons_iff.2 (.inl ⟨rfl, rfl, hsome⟩)⟩)
          exact not_even_backslashRun_backslash (h _ _ _ hbraced)
        · exact convert_of_ne hb x
      rw [hsecond]
      simpa [outputs, Segment.output] using hrest

/-- **Braced octal digits are rewritten wherever they stand after a backslash.** So what is rewritten is
an escape also when backslashes are paired, and all else is copied, if and only if no such digits stand
after an odd number of backslashes. -/
theorem rewrites_escapes_only_iff (p : List α) :
    (∀ before ds after, EscapeAt (scan p) before ds after ↔ Braced p before ds after) ∧
    (pairedScan p).flatMap Segment.source = p ∧
    (∀ before ds after, EscapeAt (pairedScan p) before ds after ↔
      Braced p before ds after ∧ Even (backslashRun before)) ∧
    (((∀ before ds after, EscapeAt (scan p) before ds after → Even (backslashRun before)) ∧
        convert p = outputs (pairedScan p)) ↔
      ∀ before ds after, Braced p before ds after → Even (backslashRun before)) := by
  refine ⟨fun _ _ _ => escapeAt_scan_iff, flatMap_source_pairedScan p,
    fun _ _ _ => escapeAt_pairedScan_iff, ?_⟩
  constructor
  · rintro ⟨heven, -⟩ before ds after h
    exact heven before ds after (escapeAt_scan_iff.2 h)
  · intro h
    refine ⟨?_, convert_eq_outputs_pairedScan h⟩
    intro before ds after hscan
    exact h before ds after (escapeAt_scan_iff.1 hscan)

/-- A pair of backslashes and then a letter with digits in braces, which is no escape and is rewritten
all the same. -/
theorem literal_backslash_rewritten :
    let p : List Char := ['\\', '\\', 'o', '\x7b', '1', '7', '\x7d']
    EscapeAt (scan p) ['\\'] [1, 7] [] ∧ ¬Even (backslashRun ['\\']) ∧
      convert p = ['\\', '\\', 'x', '\x7b', 'f', '\x7d'] ∧ outputs (pairedScan p) = p := by
  refine ⟨escapeAt_scan_iff.2 ⟨by decide, rfl⟩, not_even_backslashRun_backslash, ?_, ?_⟩
  · decide +kernel
  · decide +kernel

end RuleRegex
