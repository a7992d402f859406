import Mathlib.Algebra.Group.Nat.Defs
import Mathlib.Data.List.Induction
import RuleRegex.Proofs.Except
import RuleRegex.Source.Record

/-!
# Reading one record

A record is read at an offset exactly if it stands there. What is before it and what comes after it
does not matter, and where none stands the fault is one of the bytes.

## Main definitions

* `Record.Fault.OfBytes` — a fault of the bytes, as opposed to one of the offset.
* `Record.Short` — a pattern whose length fits its eight bytes.
-/

namespace RuleRegex

namespace Record

/-! ## Numbers, big end first -/

@[simp] theorem length_bigEndian (width n : Nat) : (bigEndian width n).length = width := by
  induction width generalizing n with
  | zero => rfl
  | succ width ih => simp [bigEndian, ih]

theorem ofBigEndian_append_singleton (bytes : Bytes) (b : UInt8) :
    ofBigEndian (bytes ++ [b]) = 256 * ofBigEndian bytes + b.toNat := by
  simp [ofBigEndian]

/-- A number that fits is read back from its bytes. -/
theorem ofBigEndian_bigEndian {width n : Nat} (h : n < 256 ^ width) :
    ofBigEndian (bigEndian width n) = n := by
  induction width generalizing n with
  | zero =>
    rw [Nat.pow_zero, Nat.lt_one_iff] at h
    subst h
    rfl
  | succ width ih =>
    have hn : n / 256 < 256 ^ width := by
      rw [Nat.div_lt_iff_lt_mul (by decide)]
      rwa [Nat.pow_succ] at h
    rw [bigEndian, ofBigEndian_append_singleton, ih hn, UInt8.toNat_ofNat']
    omega

theorem bigEndian_ofBigEndian (bytes : Bytes) :
    bigEndian bytes.length (ofBigEndian bytes) = bytes := by
  induction bytes using List.reverseRecOn with
  | nil => rfl
  | append_singleton bytes b ih =>
    have hb := b.toNat_lt
    have hdiv : (256 * ofBigEndian bytes + b.toNat) / 256 = ofBigEndian bytes := by omega
    rw [List.length_append, List.length_singleton, bigEndian, ofBigEndian_append_singleton, hdiv, ih]
    congr 2
    apply UInt8.toNat.inj
    rw [UInt8.toNat_ofNat']
    omega

theorem ofBigEndian_lt (bytes : Bytes) : ofBigEndian bytes < 256 ^ bytes.length := by
  induction bytes using List.reverseRecOn with
  | nil => decide
  | append_singleton bytes b ih =>
    have hb := b.toNat_lt
    rw [ofBigEndian_append_singleton, List.length_append, List.length_singleton, Nat.pow_succ]
    omega

theorem signed_bigEndian {n : Nat} (h : n < 2 ^ 63) : signed (bigEndian lengthSize n) = n := by
  have hn : n < 256 ^ lengthSize := Nat.lt_trans h (by decide)
  simp only [signed, ofBigEndian_bigEndian hn]
  exact if_pos (by omega)

/-- A number that is not negative has one form only. -/
theorem eq_bigEndian_of_signed {bytes : Bytes} {n : Nat} (hlen : bytes.length = lengthSize)
    (h : signed bytes = n) : n < 2 ^ 63 ∧ bytes = bigEndian lengthSize n := by
  have hlt : ofBigEndian bytes < 2 ^ 64 := by
    have := ofBigEndian_lt bytes
    rwa [hlen] at this
  simp only [signed] at h
  split at h
  · next hsmall =>
    obtain rfl := Int.ofNat.inj h
    exact ⟨hsmall, by rw [← hlen, bigEndian_ofBigEndian]⟩
  · omega

/-! ## What one reading does -/

/-- What is read at an offset, by the length that stands there. -/
theorem readAt_eq (buffer : Bytes) (offset : Int) :
    readAt buffer offset =
      match lengthAt buffer offset with
      | .error f => .error f
      | .ok length =>
        if length < 0 then .error (.negativeLength length)
        else if (buffer.length : Int) < offset + lengthSize + length + 1 then
          .error (.truncatedData (offset + lengthSize + length + 1 - offset) (buffer.length - offset))
        else
          let flag := buffer.getD (place buffer.length (offset + lengthSize + length)) 0
          if flag ≠ 0 ∧ flag ≠ 1 then .error (.badFlag flag)
          else .ok (⟨between buffer (offset + lengthSize) (offset + lengthSize + length), flag == 1⟩,
            offset + lengthSize + length + 1) := by
  unfold readAt
  cases lengthAt buffer offset with
  | error f => rfl
  | ok length =>
    simp only [bind, Except.bind]
    split
    · rfl
    split
    · rfl
    split
    · rfl
    · rfl

theorem place_nat {size k : Nat} (h : k ≤ size) : place size k = k := by
  rw [place, if_neg (by omega), Int.toNat_natCast, Nat.min_eq_left h]

theorem between_nat {buffer : Bytes} {i j : Nat} (hi : i ≤ buffer.length) (hj : j ≤ buffer.length) :
    between buffer i j = (buffer.drop i).take (j - i) := by
  rw [between, place_nat hi, place_nat hj]

/-- At an offset from the start stands the length, unless there are fewer than eight bytes. -/
theorem lengthAt_nat (buffer : Bytes) (k : Nat) :
    lengthAt buffer k =
      if buffer.length < k + lengthSize then .error .truncatedLength
      else .ok (signed ((buffer.drop k).take lengthSize)) := by
  have hk : ¬((k : Int) < 0) := by omega
  unfold lengthAt
  simp only [hk, false_and, if_false]
  split
  · rw [if_pos (by omega)]
  · rw [if_neg (by omega), place_nat (by omega)]

/-- A length that is not negative is read where it stands. -/
theorem lengthAt_eq_ok_iff {buffer : Bytes} {k n : Nat} :
    lengthAt buffer k = .ok (n : Int) ↔
      n < 2 ^ 63 ∧
        ∃ before tail, buffer = before ++ bigEndian lengthSize n ++ tail ∧ before.length = k := by
  constructor
  · intro h
    rw [lengthAt_nat] at h
    split at h
    · cases h
    · have hhead : ((buffer.drop k).take lengthSize).length = lengthSize := by
        rw [List.length_take, List.length_drop]
        omega
      obtain ⟨hn, hbytes⟩ := eq_bigEndian_of_signed hhead (Except.ok.inj h)
      refine ⟨hn, buffer.take k, buffer.drop (k + lengthSize), ?_, List.length_take_of_le (by omega)⟩
      rw [← hbytes, ← List.drop_drop, List.append_assoc, List.take_append_drop, List.take_append_drop]
  · rintro ⟨hn, before, tail, rfl, rfl⟩
    have hlen : before.length + lengthSize ≤ (before ++ bigEndian lengthSize n ++ tail).length := by
      simp only [List.length_append, length_bigEndian]
      omega
    rw [lengthAt_nat, if_neg (Nat.not_lt.2 hlen), List.append_assoc, List.drop_left,
      List.take_left' (length_bigEndian _ _), signed_bigEndian hn]

/-- Once a length has been read, the rest is decided by the bytes it leads to. -/
theorem readAt_of_lengthAt {buffer : Bytes} {k n : Nat} (h : lengthAt buffer k = .ok (n : Int)) :
    readAt buffer k =
      match buffer[k + lengthSize + n]? with
      | none => .error (.truncatedData (lengthSize + n + 1) (buffer.length - k))
      | some b =>
        if b ≠ 0 ∧ b ≠ 1 then .error (.badFlag b)
        else .ok (⟨(buffer.drop (k + lengthSize)).take n, b == 1⟩,
          (k + lengthSize + n + 1 : Nat)) := by
  have hn : ¬((n : Int) < 0) := by omega
  have hcast : (k : Int) + lengthSize + n = (k + lengthSize + n : Nat) := by omega
  have hcast' : (k : Int) + lengthSize = (k + lengthSize : Nat) := by omega
  rw [readAt_eq, h]
  simp only [if_neg hn, hcast]
  by_cases hlt : k + lengthSize + n < buffer.length
  · rw [if_neg (by omega), List.getElem?_eq_getElem hlt, place_nat (by omega), hcast',
      between_nat (by omega) (by omega), Nat.add_sub_cancel_left,
      List.getD_eq_getElem?_getD, List.getElem?_eq_getElem hlt]
    rfl
  · rw [if_pos (by omega), List.getElem?_eq_none (by omega)]
    congr 2
    omega

/-- What has to stand at an offset for a record to be read there. -/
theorem readAt_eq_ok_iff {buffer : Bytes} {k : Nat} {s : Source} {stop : Int} :
    readAt buffer k = .ok (s, stop) ↔
      ∃ (n : Nat) (b : UInt8), lengthAt buffer k = .ok (n : Int) ∧
        buffer[k + lengthSize + n]? = some b ∧ (b = 0 ∨ b = 1) ∧
        s = ⟨(buffer.drop (k + lengthSize)).take n, b == 1⟩ ∧
        stop = (k + lengthSize + n + 1 : Nat) := by
  constructor
  · intro h
    obtain ⟨length, hl, -⟩ := bind_eq_ok_iff.1 h
    by_cases hneg : length < 0
    · rw [readAt_eq, hl] at h
      simp only [if_pos hneg] at h
      cases h
    · obtain ⟨n, rfl⟩ := Int.eq_ofNat_of_zero_le (Int.not_lt.1 hneg)
      rw [readAt_of_lengthAt hl] at h
      cases hb : buffer[k + lengthSize + n]? with
      | none =>
        rw [hb] at h
        cases h
      | some b =>
        rw [hb] at h
        simp only at h
        split at h
        · cases h
        · next hflag =>
          obtain ⟨rfl, rfl⟩ := Prod.mk.inj (Except.ok.inj h)
          exact ⟨n, b, hl, hb, by tauto, rfl, rfl⟩
  · rintro ⟨n, b, hl, hb, hflag, rfl, rfl⟩
    rw [readAt_of_lengthAt hl, hb]
    exact if_neg (by tauto)

/-- Whether a fault is one of the bytes; the others are of an offset that counts from the end. -/
def Fault.OfBytes : Fault → Prop
  | nearEnd _ | beforeStart _ _ => False
  | _ => True

/-- Once a length has been read, all that can be wrong is the bytes. -/
theorem ofBytes_of_lengthAt {buffer : Bytes} {offset length : Int} {f : Fault}
    (hl : lengthAt buffer offset = .ok length) (h : readAt buffer offset = .error f) : f.OfBytes := by
  rw [readAt_eq, hl] at h
  simp only at h
  split at h
  · cases h
    trivial
  split at h
  · cases h
    trivial
  split at h
  · cases h
    trivial
  · cases h

/-- Whatever the bytes, an offset that is not negative gives a fault of the bytes. -/
theorem ofBytes_of_readAt_eq_error {buffer : Bytes} {k : Nat} {f : Fault}
    (h : readAt buffer k = .error f) : f.OfBytes := by
  by_cases hk : buffer.length < k + lengthSize
  · rw [readAt_eq, lengthAt_nat, if_pos hk] at h
    cases h
    trivial
  · have hl := lengthAt_nat buffer k
    rw [if_neg hk] at hl
    exact ofBytes_of_lengthAt hl h

/-! ## Records where they stand -/

def Short (s : Source) : Prop := s.pattern.length < 2 ^ 63

@[simp] theorem length_write (s : Source) : (write s).length = s.pattern.length + 9 := by
  simp only [write, List.length_append, length_bigEndian, lengthSize, List.length_singleton]
  omega

def flagByte (flag : Bool) : UInt8 := if flag then 1 else 0

theorem flagByte_eq_one (flag : Bool) : (flagByte flag == 1) = flag := by cases flag <;> rfl

theorem flagByte_of_eq {b : UInt8} (h : b = 0 ∨ b = 1) : flagByte (b == 1) = b := by
  rcases h with rfl | rfl <;> rfl

/-- The parts of a buffer that has a record in it. -/
theorem append_write (s : Source) (before after : Bytes) :
    before ++ write s ++ after =
      before ++ bigEndian lengthSize s.pattern.length ++ s.pattern ++
        flagByte s.caseSensitive :: after := by
  simp [write, flagByte]

theorem write_append (s : Source) (after : Bytes) :
    write s ++ after = bigEndian lengthSize s.pattern.length ++
      (s.pattern ++ flagByte s.caseSensitive :: after) := by
  have h := append_write s [] after
  rwa [List.nil_append, List.nil_append, List.append_assoc _ s.pattern] at h

/-- **A record is read wherever it stands**, whatever is before it and after it. -/
theorem readAt_write {s : Source} (hs : Short s) (before after : Bytes) :
    readAt (before ++ write s ++ after) before.length =
      .ok (s, (before.length + (s.pattern.length + 9) : Nat)) := by
  have hlen : (before ++ bigEndian lengthSize s.pattern.length).length =
      before.length + lengthSize := by simp
  have hlen' : (before ++ bigEndian lengthSize s.pattern.length ++ s.pattern).length =
      before.length + lengthSize + s.pattern.length := by rw [List.length_append, hlen]
  rw [append_write, readAt_eq_ok_iff]
  refine ⟨s.pattern.length, flagByte s.caseSensitive, ?_, ?_, ?_, ?_, ?_⟩
  · rw [lengthAt_nat, if_neg (by rw [List.length_append, hlen']; omega), List.append_assoc,
      List.append_assoc, List.drop_left, List.take_left' (length_bigEndian _ _), signed_bigEndian hs]
  · rw [List.getElem?_append_right (Nat.le_of_eq hlen'), hlen', Nat.sub_self, List.getElem?_cons_zero]
  · cases s.caseSensitive
    · exact .inl rfl
    · exact .inr rfl
  · rw [List.append_assoc, List.drop_left' hlen, List.take_left, flagByte_eq_one]
  · simp only [lengthSize]
    omega

/-- **What is read stands in the buffer as a record.** -/
theorem exists_of_readAt_eq_ok {buffer : Bytes} {k : Nat} {s : Source} {stop : Int}
    (h : readAt buffer k = .ok (s, stop)) :
    Short s ∧ ∃ before after, buffer = before ++ write s ++ after ∧ before.length = k ∧
      stop = (k + (s.pattern.length + 9) : Nat) := by
  obtain ⟨n, b, hl, hb, hflag, rfl, rfl⟩ := readAt_eq_ok_iff.1 h
  obtain ⟨hlt, hget⟩ := List.getElem?_eq_some_iff.1 hb
  rw [lengthAt_nat, if_neg (by omega)] at hl
  have htake : ((buffer.drop k).take lengthSize).length = lengthSize := by
    rw [List.length_take, List.length_drop]
    omega
  obtain ⟨hshort, hbytes⟩ := eq_bigEndian_of_signed htake (Except.ok.inj hl)
  have hpat : ((buffer.drop (k + lengthSize)).take n).length = n := by
    rw [List.length_take, List.length_drop]
    omega
  refine ⟨?_, buffer.take k, buffer.drop (k + lengthSize + n + 1), ?_, ?_, ?_⟩
  · rw [Short, hpat]
    exact hshort
  · rw [append_write, hpat, ← hbytes, flagByte_of_eq hflag]
    calc buffer
        = buffer.take k ++ buffer.drop k := (List.take_append_drop k buffer).symm
      _ = buffer.take k ++ ((buffer.drop k).take lengthSize ++ buffer.drop (k + lengthSize)) := by
        rw [← List.drop_drop, List.take_append_drop lengthSize]
      _ = buffer.take k ++ ((buffer.drop k).take lengthSize ++
          ((buffer.drop (k + lengthSize)).take n ++ buffer.drop (k + lengthSize + n))) := by
        rw [← List.drop_drop (i := n), List.take_append_drop n]
      _ = _ := by
        rw [List.drop_eq_getElem_cons hlt, hget]
        simp only [List.append_assoc]
  · rw [List.length_take]
    omega
  · rw [hpat, lengthSize]
    omega

end Record

end RuleRegex
