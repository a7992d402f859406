import Mathlib.Data.Set.List
import RuleRegex.Proofs.Escape.Border

/-!
# The borders between segments

The scan goes through a pattern from border to border: no segment is empty, and each begins where the one
before it ends. It may look far beyond a border for a closing brace, but no decision changes if the pattern
stops at the border. So the two parts of a pattern that is cut there are scanned as they were in the whole,
and at no other place is that so.

## Main definitions

* `Extent` — where a segment stands in a pattern, and what is written for it.
* `extents`, `borders` — the extents of the segments of a pattern, and the places between them.
* `ScansFrom` — a run of the scan from a place on.
* `BracedBetween` — octal digits in braces stand between two places.
-/

namespace RuleRegex

open Alphabet

variable {α : Type} [Alphabet α]

/-- Where a segment begins and ends, and what is written for it. -/
structure Extent (α : Type) where
  start : Nat
  stop : Nat
  output : List α
  deriving DecidableEq, Repr

def Extent.shift (k : Nat) (x : Extent α) : Extent α :=
  { x with start := k + x.start, stop := k + x.stop }

/-- The extents of segments that stand one after the other, from a place on. -/
def extentsFrom (i : Nat) : List (Segment α) → List (Extent α)
  | [] => []
  | s :: rest => ⟨i, i + s.source.length, s.output⟩ :: extentsFrom (i + s.source.length) rest

def extents (p : List α) : List (Extent α) := extentsFrom 0 (scan p)

/-- The start of a pattern and the places where its segments end. -/
def borders (p : List α) : List Nat := 0 :: (extents p).map Extent.stop

/-- A run of the scan from a place on: what begins there is read, and the scan goes on where it ends, as
long as something is left. -/
inductive ScansFrom (p : List α) : Nat → List (Extent α) → Prop
  | done {i : Nat} (h : p.drop i = []) : ScansFrom p i []
  | next {i : Nat} {a : α} {x y : List α} {s : Segment α} {out : List (Extent α)}
      (h : p.drop i = a :: x) (hs : nextSegment a x = (s, y))
      (rest : ScansFrom p (i + s.source.length) out) :
      ScansFrom p i (⟨i, i + s.source.length, s.output⟩ :: out)

/-- Between two places stand a backslash, its letter and, in braces, octal digits: at least one, and
nothing else up to the first closing brace. -/
def BracedBetween (p : List α) (i j : Nat) : Prop :=
  ∃ inside after : List α,
    p.drop i = ascii '\\' :: ascii 'o' :: ascii '\x7b' :: (inside ++ ascii '\x7d' :: after) ∧
      ascii '\x7d' ∉ inside ∧ inside ≠ [] ∧ (∀ a ∈ inside, isOctal a = true) ∧
      j = i + inside.length + 4

variable {p x y : List α} {a : α} {s : Segment α} {l r : List (Segment α)} {i j b : Nat}

/-! ## Extents of segments -/

theorem extentsFrom_append :
    extentsFrom i (l ++ r) =
      extentsFrom i l ++ extentsFrom (i + (l.flatMap Segment.source).length) r := by
  induction l generalizing i with
  | nil => rfl
  | cons s l ih => simp [extentsFrom, ih, Nat.add_assoc]

/-- Extents further on are the same extents, shifted. -/
theorem extentsFrom_add (k : Nat) : extentsFrom (k + i) l = (extentsFrom i l).map (Extent.shift k) := by
  induction l generalizing i with
  | nil => rfl
  | cons s l ih =>
    have hrest := ih (i := i + s.source.length)
    simp [extentsFrom, Extent.shift, Nat.add_assoc, hrest]

/-- Each extent begins where the one before it ends. -/
theorem map_start_extentsFrom :
    (extentsFrom i l).map Extent.start ++ [i + (l.flatMap Segment.source).length] =
      i :: (extentsFrom i l).map Extent.stop := by
  induction l generalizing i with
  | nil => rfl
  | cons s l ih =>
    have hrest := ih (i := i + s.source.length)
    simp [extentsFrom, ← hrest, Nat.add_assoc]

theorem flatMap_output_extentsFrom : (extentsFrom i l).flatMap Extent.output = outputs l := by
  induction l generalizing i with
  | nil => rfl
  | cons s l ih => simp [extentsFrom, ih, outputs]

/-- An extent is that of one segment, behind all segments before it. -/
theorem mem_extentsFrom_iff {e : Extent α} :
    e ∈ extentsFrom i l ↔ ∃ before s after, l = before ++ s :: after ∧
      e = ⟨i + (before.flatMap Segment.source).length,
        i + (before.flatMap Segment.source).length + s.source.length, s.output⟩ := by
  constructor
  · induction l generalizing i with
    | nil => simp [extentsFrom]
    | cons s l ih =>
      rw [extentsFrom, List.mem_cons]
      rintro (rfl | h)
      · exact ⟨[], s, l, rfl, rfl⟩
      · obtain ⟨before, t, after, rfl, rfl⟩ := ih h
        refine ⟨s :: before, t, after, rfl, ?_⟩
        rw [List.flatMap_cons, List.length_append, Nat.add_assoc i]
  · rintro ⟨before, s, after, rfl, rfl⟩
    rw [extentsFrom_append, extentsFrom]
    exact List.mem_append_right _ List.mem_cons_self

/-! ## Steps and runs of the scan -/

theorem source_append_of_nextSegment (hs : nextSegment a x = (s, y)) : s.source ++ y = a :: x := by
  have h := flatMap_source_scan (a :: x)
  rwa [scan_cons, List.flatMap_cons, flatMap_source_scan, hs] at h

/-- **A step goes forward**: the segment that it reads is not empty. -/
theorem length_source_pos_of_nextSegment (hs : nextSegment a x = (s, y)) : 0 < s.source.length := by
  have hle : y.length ≤ x.length := by simpa [hs] using length_nextSegment_le a x
  have hlen := congrArg List.length (source_append_of_nextSegment hs)
  rw [List.length_append, List.length_cons] at hlen
  omega

/-- What a step leaves is what stands behind the end of its segment. -/
theorem drop_add_source (h : p.drop i = a :: x) (hs : nextSegment a x = (s, y)) :
    p.drop (i + s.source.length) = y := by
  rw [← List.drop_drop, h, ← source_append_of_nextSegment hs, List.drop_left]

theorem scansFrom_extentsFrom (h : p.drop i = y) : ScansFrom p i (extentsFrom i (scan y)) := by
  induction y using scan.induct generalizing i with
  | case1 =>
    rw [scan_nil]
    exact .done h
  | case2 a x ih =>
    rw [scan_cons]
    exact .next h rfl (ih (drop_add_source h rfl))

/-- **The scan comes to an end from every place**, and there is only one run. -/
theorem scansFrom_iff {out : List (Extent α)} :
    ScansFrom p i out ↔ out = extentsFrom i (scan (p.drop i)) := by
  constructor
  · intro h
    induction h with
    | done h => rw [h, scan_nil, extentsFrom]
    | next h hs _ ih => rw [ih, drop_add_source h hs, h, scan_cons, hs, extentsFrom]
  · rintro rfl
    exact scansFrom_extentsFrom rfl

/-- Every step of a run goes forward. -/
theorem ScansFrom.start_lt_stop {out : List (Extent α)} (h : ScansFrom p i out) :
    ∀ e ∈ out, e.start < e.stop := by
  induction h with
  | done h => simp
  | next h hs _ ih =>
    rw [List.forall_mem_cons]
    exact ⟨Nat.lt_add_of_pos_right (length_source_pos_of_nextSegment hs), ih⟩

/-- The scan has one run, and it gives the extents. -/
theorem scansFrom_zero_iff {out : List (Extent α)} : ScansFrom p 0 out ↔ out = extents p := by
  rw [scansFrom_iff, List.drop_zero, extents]

/-! ## Segments in their places -/

namespace Piece

variable (e : Piece p)

def extent : Extent α := ⟨e.sourceStart, e.sourceStop, e.segment.output⟩

/-- A segment ends where the segments up to it end. -/
theorem length_before_append :
    ((e.before ++ [e.segment]).flatMap Segment.source).length = e.sourceStop := by
  simp [sourceStop, sourceStart]

/-- A segment is what stands between where it begins and where it ends. -/
theorem extract_source : p.extract e.sourceStart e.sourceStop = e.segment.source := by
  rw [List.extract_eq_take_drop, e.drop_sourceStart, sourceStop, Nat.add_sub_cancel_left, List.take_left]

/-- What is written for a segment differs from what stands there exactly if it is an escape. -/
theorem output_ne_extract_iff :
    e.segment.output ≠ p.extract e.sourceStart e.sourceStop ↔ e.segment.isEscape = true := by
  rw [e.extract_source, ne_eq, Segment.output_eq_source_iff, Bool.not_eq_false]

end Piece

theorem mem_extents_iff {x : Extent α} : x ∈ extents p ↔ ∃ e : Piece p, e.extent = x := by
  rw [extents, mem_extentsFrom_iff]
  constructor
  · rintro ⟨before, s, after, h, rfl⟩
    refine ⟨⟨before, s, after, h⟩, ?_⟩
    simp [Piece.extent, Piece.sourceStop, Piece.sourceStart]
  · rintro ⟨e, rfl⟩
    refine ⟨e.before, e.segment, e.after, e.scan_eq, ?_⟩
    simp [Piece.extent, Piece.sourceStop, Piece.sourceStart]

/-! ## Rewritten segments -/

theorem exists_digits_of_isOctal {inside : List α} (h : ∀ a ∈ inside, isOctal a = true) :
    ∃ ds : List (Fin 8), ds.map ofOctal = inside := by
  have hrange : inside ∈ Set.range (List.map (ofOctal (α := α))) := by
    rw [Set.range_list_map]
    intro a ha
    obtain ⟨d, rfl⟩ := isOctal_iff.1 (h a ha)
    exact Set.mem_range_self d
  exact hrange

theorem Segment.length_source_escape (ds : List (Fin 8)) :
    (Segment.escape ds : Segment α).source.length = ds.length + 4 := by simp [Segment.source]

/-- Digits in braces between two places are braced digits behind a backslash at the first of them. -/
theorem BracedBetween.exists_braced (h : BracedBetween p i j) :
    i ≤ p.length ∧ ∃ ds after, Braced p (p.take i) ds after ∧ j = i + (ds.length + 4) := by
  obtain ⟨inside, after, hdrop, -, hne, hoctal, rfl⟩ := h
  obtain ⟨ds, rfl⟩ := exists_digits_of_isOctal hoctal
  have hi : i ≤ p.length := by
    by_contra hlt
    rw [List.drop_eq_nil_of_le (by omega)] at hdrop
    cases hdrop
  refine ⟨hi, ds, after, ⟨by simpa using hne, ?_⟩, by rw [List.length_map, Nat.add_assoc]⟩
  calc p = p.take i ++ p.drop i := (List.take_append_drop i p).symm
    _ = p.take i ++ (Segment.escape ds).source ++ after := by rw [hdrop]; simp [Segment.source]

/-- Such digits are a segment by themselves. -/
theorem BracedBetween.exists_piece (h : BracedBetween p i j) :
    ∃ e : Piece p, e.segment.isEscape = true ∧ e.sourceStart = i ∧ e.sourceStop = j := by
  obtain ⟨hi, ds, after, hbraced, rfl⟩ := h.exists_braced
  obtain ⟨l, r, hscan, hl, -⟩ := escapeAt_scan_iff.2 hbraced
  have hstart : (l.flatMap Segment.source).length = i := by
    rw [hl, List.length_take, Nat.min_eq_left hi]
  refine ⟨⟨l, .escape ds, r, hscan⟩, rfl, hstart, ?_⟩
  rw [Piece.sourceStop, Piece.sourceStart, hstart, Segment.length_source_escape]

/-- Between the ends of an escape stand its backslash, its letter and, in braces, its digits. -/
theorem Piece.bracedBetween (e : Piece p) (h : e.segment.isEscape = true) :
    BracedBetween p e.sourceStart e.sourceStop := by
  have hdrop := e.drop_sourceStart
  cases hs : e.segment with
  | verbatim text =>
    rw [hs] at h
    cases h
  | escape ds =>
    have hne : ds ≠ [] := digits_ne_nil_of_mem_scan (p := p) (by simp [e.scan_eq, hs])
    have hoctal : ∀ a ∈ ds.map (ofOctal (α := α)), isOctal a = true := by
      intro a ha
      obtain ⟨d, -, rfl⟩ := List.mem_map.1 ha
      exact isOctal_iff.2 ⟨d, rfl⟩
    refine ⟨ds.map ofOctal, e.after.flatMap Segment.source, ?_, ascii_brace_notMem_octal ds,
      by simpa using hne, hoctal, ?_⟩
    · rw [hdrop, hs]
      simp [Segment.source]
    · rw [Piece.sourceStop, hs, Segment.length_source_escape, List.length_map, Nat.add_assoc]

/-- **What is written for a segment differs from it exactly where digits in braces stand.** -/
theorem exists_rewritten_iff :
    (∃ x ∈ extents p, x.start = i ∧ x.stop = j ∧ x.output ≠ p.extract i j) ↔ BracedBetween p i j := by
  constructor
  · rintro ⟨x, hx, rfl, rfl, hne⟩
    obtain ⟨e, rfl⟩ := mem_extents_iff.1 hx
    exact e.bracedBetween (e.output_ne_extract_iff.1 hne)
  · intro h
    obtain ⟨e, hescape, rfl, rfl⟩ := h.exists_piece
    exact ⟨e.extent, mem_extents_iff.2 ⟨e, rfl⟩, rfl, rfl, e.output_ne_extract_iff.2 hescape⟩

/-! ## Cuts at borders -/

/-- The starts of the segments and the end of the pattern are the borders. -/
theorem map_start_extents (p : List α) :
    (extents p).map Extent.start ++ [p.length] = borders p := by
  have h := map_start_extentsFrom (i := 0) (l := scan p)
  rwa [flatMap_source_scan, Nat.zero_add] at h

theorem mem_borders_iff :
    b ∈ borders p ↔ ∃ l r, scan p = l ++ r ∧ (l.flatMap Segment.source).length = b := by
  rw [borders, List.mem_cons, List.mem_map]
  constructor
  · rintro (rfl | ⟨x, hx, rfl⟩)
    · exact ⟨[], scan p, rfl, rfl⟩
    · obtain ⟨e, rfl⟩ := mem_extents_iff.1 hx
      exact ⟨e.before ++ [e.segment], e.after, by simp [e.scan_eq], e.length_before_append⟩
  · rintro ⟨l, r, hscan, rfl⟩
    rcases List.eq_nil_or_concat' l with rfl | ⟨before, s, rfl⟩
    · exact .inl rfl
    · let e : Piece p := ⟨before, s, r, by simpa using hscan⟩
      exact .inr ⟨e.extent, mem_extents_iff.2 ⟨e, rfl⟩, e.length_before_append.symm⟩

theorem length_mem_borders (p : List α) : p.length ∈ borders p := by
  rw [← map_start_extents]
  simp

theorem le_length_of_mem_borders (hb : b ∈ borders p) : b ≤ p.length := by
  obtain ⟨l, r, hscan, rfl⟩ := mem_borders_iff.1 hb
  have hlen := congrArg List.length (flatMap_source_scan p)
  rw [hscan, List.flatMap_append, List.length_append] at hlen
  omega

/-- **The parts of a pattern on both sides of a border are scanned by themselves.** -/
theorem scan_eq_append (hb : b ∈ borders p) : scan p = scan (p.take b) ++ scan (p.drop b) := by
  obtain ⟨l, r, hscan, rfl⟩ := mem_borders_iff.1 hb
  have hsource := flatMap_source_scan p
  rw [hscan, List.flatMap_append] at hsource
  have hleft : p.take (l.flatMap Segment.source).length = l.flatMap Segment.source := by
    rw [← hsource, List.take_left]
  have hright : p.drop (l.flatMap Segment.source).length = r.flatMap Segment.source := by
    rw [← hsource, List.drop_left]
  rw [hleft, hright, scan_sources_left hscan, scan_sources_right hscan, hscan]

/-- At a border the extents are those of the two parts. -/
theorem extents_eq_append (hb : b ∈ borders p) :
    extents p = extents (p.take b) ++ (extents (p.drop b)).map (Extent.shift b) := by
  have hlen : (p.take b).length = b := by
    rw [List.length_take, Nat.min_eq_left (le_length_of_mem_borders hb)]
  calc extents p
      = extentsFrom 0 (scan (p.take b) ++ scan (p.drop b)) := by rw [extents, scan_eq_append hb]
    _ = extents (p.take b) ++ extentsFrom (b + 0) (scan (p.drop b)) := by
      rw [extentsFrom_append, flatMap_source_scan, hlen, Nat.zero_add, extents, Nat.add_zero]
    _ = extents (p.take b) ++ (extents (p.drop b)).map (Extent.shift b) := by
      rw [extentsFrom_add, extents, extents]

/-- Where the extents are those of two parts there is a border. -/
theorem mem_borders_of_extents_eq_append (hb : b ≤ p.length)
    (h : extents p = extents (p.take b) ++ (extents (p.drop b)).map (Extent.shift b)) :
    b ∈ borders p := by
  have hend := length_mem_borders (p.take b)
  rw [List.length_take, Nat.min_eq_left hb, borders, List.mem_cons] at hend
  rw [borders, h, List.map_append, List.mem_cons, List.mem_append]
  exact hend.imp_right .inl

/-- At a border the converted pattern is that of the two parts. -/
theorem convert_eq_append (hb : b ∈ borders p) :
    convert p = convert (p.take b) ++ convert (p.drop b) := by
  rw [convert, scan_eq_append hb, outputs_append]
  rfl

/-- **The scan divides a pattern, which can be cut between any two segments.** From the start there is one
run of the scan, it comes to an end, and no segment that it reads is empty. The places where segments begin,
and then the end of the pattern, are the start of the pattern and then the places where segments end. What
is written for a segment differs from it exactly where octal digits in braces stand. A pattern has the
segments of its two parts, those of the second moved along, exactly if it is cut at one of these borders,
its start and its end among them; and then the two parts are converted by themselves. -/
theorem scan_divides_pattern (p : List α) :
    (∀ out, ScansFrom p 0 out ↔ out = extents p) ∧
    (∀ x ∈ extents p, x.start < x.stop) ∧
    (extents p).map Extent.start ++ [p.length] = borders p ∧
    (∀ i j, (∃ x ∈ extents p, x.start = i ∧ x.stop = j ∧ x.output ≠ p.extract i j) ↔
      BracedBetween p i j) ∧
    convert p = (extents p).flatMap Extent.output ∧
    (∀ b, b ∈ borders p ↔ b ≤ p.length ∧
      extents p = extents (p.take b) ++ (extents (p.drop b)).map (Extent.shift b)) ∧
    ∀ b ∈ borders p, convert p = convert (p.take b) ++ convert (p.drop b) := by
  refine ⟨?_, ?_, map_start_extents p, ?_, flatMap_output_extentsFrom.symm, ?_, ?_⟩
  · intro out
    exact scansFrom_zero_iff
  · exact (scansFrom_zero_iff.2 rfl).start_lt_stop
  · intro i j
    exact exists_rewritten_iff
  · intro b
    constructor
    · intro hb
      exact ⟨le_length_of_mem_borders hb, extents_eq_append hb⟩
    · rintro ⟨hb, h⟩
      exact mem_borders_of_extents_eq_append hb h
  · intro b hb
    exact convert_eq_append hb

/-- Inside an escape there is no border, and its parts are not converted. -/
example : let p := "\\\\0123\\o\x7b17\x7d".toList
    borders p = [0, 1, 6, 12] ∧ convert (p.take 11) ++ convert (p.drop 11) ≠ convert p := by
  decide +kernel

end RuleRegex
