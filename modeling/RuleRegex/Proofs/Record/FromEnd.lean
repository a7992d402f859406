import Mathlib.Algebra.Group.Int.Defs
import RuleRegex.Proofs.Record.Codec

/-!
# Offsets that count from the end

An offset below zero is not refused. It counts from the end of the bytes if at least a length stands
between it and the end and it does not reach before the start; otherwise it is a fault of the offset and
not of the bytes. A record that stands at such an offset is read. Where a length stands that reaches past
the end the flag is taken from the start of the bytes, and a source is read of which no record is there.

## Main definitions

* `Record.NegativeOffset` — an offset below zero that a signed word holds.
* `Record.ReadFromEnd` — what is read at such an offset.
-/

namespace RuleRegex

namespace Record

variable {buffer before tail : Bytes} {offset : Int} {k n : Nat}

structure NegativeOffset (offset : Int) : Prop where
  least : -2 ^ 63 ≤ offset
  negative : offset < 0

/-- Whether eight bytes from a negative offset on are neither to be had from the end of so many bytes nor
known to be cut off: they would reach past the end, or begin before the start. -/
def NoPlace (size : Nat) (offset : Int) : Prop :=
  -lengthSize < offset ∧ offset + lengthSize ≤ size ∨ offset ≤ -lengthSize ∧ offset < -size

/-! ## Places counted from the end -/

theorem place_sub_length {size : Nat} (h : k < size) : place size ((k : Int) - size) = k := by
  rw [place, if_pos (by omega)]
  omega

/-- Counted from the end, the same bytes stand between the same places. -/
theorem between_sub_length {i j : Nat} (hij : i ≤ j) (hj : j < buffer.length) :
    between buffer ((i : Int) - buffer.length) ((j : Int) - buffer.length) =
      (buffer.drop i).take (j - i) := by
  have hi : i < buffer.length := Nat.lt_of_le_of_lt hij hj
  rw [between, place_sub_length hi, place_sub_length hj]

/-- Counted from the end, the same length is read. -/
theorem lengthAt_sub_length (h : k + lengthSize ≤ buffer.length) :
    lengthAt buffer ((k : Int) - buffer.length) = lengthAt buffer k := by
  have hsize : 0 < lengthSize := by decide
  rw [lengthAt_nat, if_neg (by omega), lengthAt, if_neg (by omega), if_neg (by omega), if_neg (by omega),
    place_sub_length (by omega)]

/-- An offset below zero is without a place, or leaves too few bytes for a length, or is the place of eight
bytes less the length of all. -/
theorem lengthAt_cases (buffer : Bytes) (h : offset < 0) :
    (NoPlace buffer.length offset ∧ ∃ f : Fault, ¬f.OfBytes ∧ lengthAt buffer offset = .error f) ∨
    (¬NoPlace buffer.length offset ∧ lengthAt buffer offset = .error .truncatedLength) ∨
    ¬NoPlace buffer.length offset ∧
      ∃ k : Nat, k + lengthSize ≤ buffer.length ∧ offset = (k : Int) - buffer.length := by
  unfold NoPlace
  by_cases hcut : (buffer.length : Int) < offset + lengthSize
  · refine .inr (.inl ⟨by omega, ?_⟩)
    rw [lengthAt, if_pos hcut]
  by_cases hnear : 0 < offset + lengthSize
  · refine .inl ⟨by omega, .nearEnd offset, id, ?_⟩
    rw [lengthAt, if_neg hcut, if_pos ⟨h, hnear⟩]
  by_cases hstart : offset + buffer.length < 0
  · refine .inl ⟨by omega, .beforeStart offset buffer.length, id, ?_⟩
    rw [lengthAt, if_neg hcut, if_neg (by omega), if_pos ⟨h, hstart⟩]
  · exact .inr (.inr ⟨by omega, (offset + buffer.length).toNat, by omega, by omega⟩)

/-! ## Records that end before the end -/

/-- A length that leaves room for the flag is read on from as if it were counted from the start. -/
theorem readAt_sub_length_of_room (hl : lengthAt buffer k = .ok (n : Int))
    (hroom : k + lengthSize + n < buffer.length) :
    readAt buffer ((k : Int) - buffer.length) =
      (readAt buffer k).map fun p : Source × Int => (p.1, p.2 - (buffer.length : Int)) := by
  have hstart : (k : Int) - buffer.length + lengthSize = (k + lengthSize : Nat) - buffer.length := by
    omega
  have hstop : ((k + lengthSize : Nat) : Int) - buffer.length + n =
      (k + lengthSize + n : Nat) - buffer.length := by omega
  have hnext : ((k + lengthSize + n : Nat) : Int) - buffer.length + 1 =
      (k + lengthSize + n + 1 : Nat) - buffer.length := by omega
  rw [readAt_of_lengthAt hl, List.getElem?_eq_getElem hroom, readAt_eq, lengthAt_sub_length (by omega), hl]
  simp only [hstart, hstop, hnext]
  rw [if_neg (by omega), if_neg (by omega), place_sub_length hroom,
    between_sub_length (Nat.le_add_right _ n) hroom, Nat.add_sub_cancel_left,
    List.getD_eq_getElem?_getD, List.getElem?_eq_getElem hroom, Option.getD_some]
  split <;> rfl

/-- **A record is read also where it is counted from the end.** -/
theorem readAt_sub_length_of_ok {s : Source} {stop : Int} (h : readAt buffer k = .ok (s, stop)) :
    readAt buffer ((k : Int) - buffer.length) = .ok (s, stop - buffer.length) := by
  obtain ⟨n, b, hl, hb, -⟩ := readAt_eq_ok_iff.1 h
  obtain ⟨hroom, -⟩ := List.getElem?_eq_some_iff.1 hb
  rw [readAt_sub_length_of_room hl hroom, h]
  rfl

/-! ## Lengths that reach past the end -/

/-- The pattern of a length that reaches past the end. If the length stands at the very end it is the
beginning of the bytes, and otherwise as much of what follows the length as the length exceeds all of the
bytes by. -/
def wrappedPattern (buffer tail : Bytes) (n : Nat) : Bytes :=
  if tail = [] then buffer.take n else tail.take (n - buffer.length)

theorem between_wrapped (hbuffer : buffer = before ++ tail) (hlt : n - tail.length < buffer.length) :
    between buffer ((before.length : Int) - buffer.length) (n - tail.length : Nat) =
      wrappedPattern buffer tail n := by
  have hlen : buffer.length = before.length + tail.length := by rw [hbuffer, List.length_append]
  rw [wrappedPattern]
  -- What follows a length at the very end begins at zero, which counts from the start and not from the end.
  by_cases hnil : tail = []
  · have hempty : tail.length = 0 := List.length_eq_zero_iff.2 hnil
    have hbegin : (before.length : Int) - buffer.length = (0 : Nat) := by omega
    have hcount : n - tail.length - 0 = n := by omega
    rw [if_pos hnil, hbegin, between_nat (Nat.zero_le _) (Nat.le_of_lt hlt), List.drop_zero, hcount]
  · have hpos : 0 < tail.length := List.length_pos_iff.2 hnil
    have hdrop : buffer.drop before.length = tail := by rw [hbuffer, List.drop_left]
    have hcount : n - tail.length - before.length = n - buffer.length := by omega
    rw [if_neg hnil, between, place_sub_length (by omega), place_nat (Nat.le_of_lt hlt), hdrop, hcount]

/-- If a length reaches past the end, the flag is looked for as far behind the start. -/
theorem readAt_sub_length_of_no_room (hn : n < 2 ^ 63)
    (hbuffer : buffer = before ++ bigEndian lengthSize n ++ tail) (htail : tail.length ≤ n) :
    readAt buffer ((before.length : Int) - buffer.length) =
      match buffer[n - tail.length]? with
      | none => .error (.truncatedData (lengthSize + n + 1) (buffer.length + lengthSize + tail.length))
      | some b =>
        if b ≠ 0 ∧ b ≠ 1 then .error (.badFlag b)
        else .ok (⟨wrappedPattern buffer tail n, b == 1⟩, (n - tail.length : Nat) + 1) := by
  have hhead : (before ++ bigEndian lengthSize n).length = before.length + lengthSize := by
    rw [List.length_append, length_bigEndian]
  have hlen : buffer.length = before.length + lengthSize + tail.length := by
    rw [hbuffer, List.length_append, hhead]
  have hl : lengthAt buffer before.length = .ok (n : Int) :=
    lengthAt_eq_ok_iff.2 ⟨hn, before, tail, hbuffer, rfl⟩
  have hstart : (before.length : Int) - buffer.length + lengthSize =
      (before ++ bigEndian lengthSize n).length - buffer.length := by omega
  have hstop : ((before ++ bigEndian lengthSize n).length : Int) - buffer.length + n =
      (n - tail.length : Nat) := by omega
  rw [readAt_eq, lengthAt_sub_length (by omega), hl]
  simp only [hstart, hstop]
  by_cases hlt : n - tail.length < buffer.length
  · rw [if_neg (by omega), if_neg (by omega), between_wrapped hbuffer hlt, List.getElem?_eq_getElem hlt,
      place_nat (Nat.le_of_lt hlt), List.getD_eq_getElem?_getD, List.getElem?_eq_getElem hlt]
    rfl
  · rw [if_neg (by omega), if_pos (by omega), List.getElem?_eq_none (by omega)]
    congr 2
    all_goals omega

/-! ## What is read, and what is not -/

inductive ReadFromEnd (buffer : Bytes) : Int → Source → Int → Prop
  /-- The record of a source stands there; what follows it is counted from the end too. -/
  | whole {before after : Bytes} {s : Source} (hs : Short s) (h : buffer = before ++ write s ++ after) :
    ReadFromEnd buffer ((before.length : Int) - buffer.length) s (-(after.length : Int))
  /-- A length stands there that reaches past the end, and the flag as far behind the start. -/
  | wrapped {before tail : Bytes} {n : Nat} {flag : Bool} (hn : n < 2 ^ 63)
    (h : buffer = before ++ bigEndian lengthSize n ++ tail) (htail : tail.length ≤ n)
    (hflag : buffer[n - tail.length]? = some (flagByte flag)) :
    ReadFromEnd buffer ((before.length : Int) - buffer.length) ⟨wrappedPattern buffer tail n, flag⟩
      ((n - tail.length : Nat) + 1)

theorem flagByte_ne (flag : Bool) : ¬(flagByte flag ≠ 0 ∧ flagByte flag ≠ 1) := by
  cases flag <;> decide

theorem ReadFromEnd.readAt_eq {s : Source} {stop : Int} (h : ReadFromEnd buffer offset s stop) :
    readAt buffer offset = .ok (s, stop) := by
  cases h with
  | @whole before after s hs h =>
    have hread := readAt_write hs before after
    have hlen : buffer.length = before.length + (s.pattern.length + 9) + after.length := by
      rw [h, List.length_append, List.length_append, length_write]
    have hstop : ((before.length + (s.pattern.length + 9) : Nat) : Int) - buffer.length =
        -(after.length : Int) := by omega
    rw [← h] at hread
    rw [readAt_sub_length_of_ok hread, hstop]
  | wrapped hn h htail hflag =>
    rw [readAt_sub_length_of_no_room hn h htail, hflag]
    simp only [if_neg (flagByte_ne _), flagByte_eq_one]

/-- A record with room behind it is read as it stands. -/
theorem readFromEnd_of_room {s : Source} {stop : Int} (hl : lengthAt buffer k = .ok (n : Int))
    (hroom : k + lengthSize + n < buffer.length)
    (h : readAt buffer ((k : Int) - buffer.length) = .ok (s, stop)) :
    ReadFromEnd buffer ((k : Int) - buffer.length) s stop := by
  rw [readAt_sub_length_of_room hl hroom] at h
  cases hread : readAt buffer k with
  | error f =>
    rw [hread] at h
    cases h
  | ok p =>
    obtain ⟨hs, before, after, hbuffer, rfl, hstop⟩ := exists_of_readAt_eq_ok hread
    have hlen : buffer.length = before.length + (p.1.pattern.length + 9) + after.length := by
      rw [hbuffer, List.length_append, List.length_append, length_write]
    have hafter : p.2 - (buffer.length : Int) = -(after.length : Int) := by omega
    rw [hread] at h
    obtain ⟨rfl, rfl⟩ := Prod.mk.inj (Except.ok.inj h)
    rw [hafter]
    exact .whole hs hbuffer

/-- A record without room behind it is read around the end. -/
theorem readFromEnd_of_no_room {s : Source} {stop : Int} (hn : n < 2 ^ 63)
    (hbuffer : buffer = before ++ bigEndian lengthSize n ++ tail) (htail : tail.length ≤ n)
    (h : readAt buffer ((before.length : Int) - buffer.length) = .ok (s, stop)) :
    ReadFromEnd buffer ((before.length : Int) - buffer.length) s stop := by
  rw [readAt_sub_length_of_no_room hn hbuffer htail] at h
  split at h
  · cases h
  · next b hb =>
    split at h
    · cases h
    · next hflag =>
      obtain ⟨rfl, rfl⟩ := Prod.mk.inj (Except.ok.inj h)
      refine .wrapped hn hbuffer htail ?_
      rw [hb, flagByte_of_eq (by tauto)]

theorem readFromEnd_of_readAt_eq_ok {s : Source} {stop : Int} (hneg : offset < 0)
    (h : readAt buffer offset = .ok (s, stop)) : ReadFromEnd buffer offset s stop := by
  obtain ⟨-, f, -, hl⟩ | ⟨-, hl⟩ | ⟨-, k, hk, rfl⟩ := lengthAt_cases buffer hneg
  · rw [readAt_eq, hl] at h
    cases h
  · rw [readAt_eq, hl] at h
    cases h
  cases hl : lengthAt buffer k with
  | error f =>
    rw [readAt_eq, lengthAt_sub_length hk, hl] at h
    cases h
  | ok length =>
    by_cases hsign : length < 0
    · rw [readAt_eq, lengthAt_sub_length hk, hl] at h
      simp only [if_pos hsign] at h
      cases h
    obtain ⟨n, rfl⟩ := Int.eq_ofNat_of_zero_le (Int.not_lt.1 hsign)
    by_cases hroom : k + lengthSize + n < buffer.length
    · exact readFromEnd_of_room hl hroom h
    · obtain ⟨hn, before, tail, hbuffer, rfl⟩ := lengthAt_eq_ok_iff.1 hl
      have hlen : buffer.length = before.length + lengthSize + tail.length := by
        rw [hbuffer, List.length_append, List.length_append, length_bigEndian]
      exact readFromEnd_of_no_room hn hbuffer (by omega) h

theorem readAt_eq_ok_iff_readFromEnd {s : Source} {stop : Int} (hneg : offset < 0) :
    readAt buffer offset = .ok (s, stop) ↔ ReadFromEnd buffer offset s stop :=
  ⟨readFromEnd_of_readAt_eq_ok hneg, ReadFromEnd.readAt_eq⟩

/-- A fault of the offset there is exactly if the offset has no place. -/
theorem exists_not_ofBytes_iff (buffer : Bytes) (hneg : offset < 0) :
    (∃ f : Fault, ¬f.OfBytes ∧ readAt buffer offset = .error f) ↔ NoPlace buffer.length offset := by
  obtain ⟨hno, f, hf, hl⟩ | ⟨hplace, hl⟩ | ⟨hplace, k, hk, rfl⟩ := lengthAt_cases buffer hneg
  · exact iff_of_true ⟨f, hf, by rw [readAt_eq, hl]⟩ hno
  · refine iff_of_false ?_ hplace
    rintro ⟨f, hf, h⟩
    rw [readAt_eq, hl] at h
    cases h
    exact hf trivial
  · refine iff_of_false ?_ hplace
    have hl := lengthAt_sub_length hk
    rw [lengthAt_nat, if_neg (by omega)] at hl
    rintro ⟨f, hf, h⟩
    exact hf (ofBytes_of_lengthAt hl h)

/-- **A negative offset counts from the end.** It is not refused as such. A source is read if its record
stands there, or if a length stands there that reaches past the end and the flag is found as far behind
the start; where the eight bytes of a length have no place the fault is one of the offset; and in all
other cases, and no others, the fault is one of the bytes. -/
theorem negative_offset_counts_from_end (buffer : Bytes) {offset : Int} (h : NegativeOffset offset) :
    (∀ s stop, readAt buffer offset = .ok (s, stop) ↔ ReadFromEnd buffer offset s stop) ∧
    ((∃ f : Fault, ¬f.OfBytes ∧ readAt buffer offset = .error f) ↔ NoPlace buffer.length offset) ∧
    ((∃ f : Fault, f.OfBytes ∧ readAt buffer offset = .error f) ↔
      ¬NoPlace buffer.length offset ∧ ∀ s stop, ¬ReadFromEnd buffer offset s stop) := by
  have hread (s : Source) (stop : Int) :
      readAt buffer offset = .ok (s, stop) ↔ ReadFromEnd buffer offset s stop :=
    readAt_eq_ok_iff_readFromEnd h.negative
  have hplace := exists_not_ofBytes_iff buffer h.negative
  refine ⟨hread, hplace, ?_⟩
  simp only [← hplace, ← hread]
  cases readAt buffer offset with
  | error f => simp
  | ok p => simpa using ⟨p.1, p.2, rfl⟩

/-- The shortest record at its own length before the end, and one byte before the end. -/
theorem negative_offsets_not_refused :
    NegativeOffset (-9) ∧ readAt [0, 0, 0, 0, 0, 0, 0, 0, 1] (-9) = .ok (⟨[], true⟩, 0) ∧
    NegativeOffset (-1) ∧ readAt [0, 0, 0, 0, 0, 0, 0, 0, 1] (-1) = .error (.nearEnd (-1)) ∧
      ¬(Fault.nearEnd (-1)).OfBytes :=
  ⟨⟨by decide, by decide⟩, by decide, ⟨by decide, by decide⟩, by decide, id⟩

/-- A record cut after its length, with the parts the other way round. -/
theorem record_read_around_end :
    NegativeOffset (-8) ∧ ReadFromEnd [0x61, 1, 0, 0, 0, 0, 0, 0, 0, 1] (-8) ⟨[0x61], true⟩ 2 ∧
      readAt [0x61, 1, 0, 0, 0, 0, 0, 0, 0, 1] (-8) = .ok (⟨[0x61], true⟩, 2) := by
  have hnegative : NegativeOffset (-8) := ⟨by decide, by decide⟩
  have hread : ReadFromEnd [0x61, 1, 0, 0, 0, 0, 0, 0, 0, 1] (-8) ⟨[0x61], true⟩ 2 :=
    @ReadFromEnd.wrapped _ [0x61, 1] [] 1 true (by decide) (by decide) (by decide) (by decide)
  exact ⟨hnegative, hread, ((negative_offset_counts_from_end _ hnegative).1 _ _).2 hread⟩

end Record

end RuleRegex
