import RuleRegex.Proofs.Record.Codec

/-!
# Records and nothing else

Bytes are the record of a source, or they are malformed in one way: the length is cut off, is below zero
or asks for more than there is, the flag is neither of its two values, or bytes are left over. Each way
has its fault, and there is no third case. So a source has one record, and every record that is read is
written again byte for byte.

## Main definitions

* `Record.Malformed` — the ways in which bytes are no record, each with its fault.
-/

namespace RuleRegex

namespace Record

variable {data head tail : Bytes} {n : Nat}

/-- The ways in which bytes are no record, each with its fault. -/
inductive Malformed : Bytes → Fault → Prop
  /-- There are too few bytes for a length. -/
  | noLength {data : Bytes} (h : data.length < lengthSize) : Malformed data .truncatedLength
  /-- The length is below zero. -/
  | negative {head : Bytes} (hhead : head.length = lengthSize) (h : signed head < 0) (tail : Bytes) :
    Malformed (head ++ tail) (.negativeLength (signed head))
  /-- The length leaves no room for the flag. -/
  | tooLong {n : Nat} (hn : n < 2 ^ 63) {tail : Bytes} (h : tail.length ≤ n) :
    Malformed (bigEndian lengthSize n ++ tail)
      (.truncatedData (lengthSize + n + 1) (lengthSize + tail.length))
  /-- The flag is neither of its two values. -/
  | flag {pattern : Bytes} (hn : pattern.length < 2 ^ 63) {b : UInt8} (h : b ≠ 0 ∧ b ≠ 1)
    (tail : Bytes) :
    Malformed (bigEndian lengthSize pattern.length ++ (pattern ++ b :: tail)) (.badFlag b)
  /-- Bytes follow the record. -/
  | trailing {s : Source} (hs : Short s) {tail : Bytes} (h : tail ≠ []) :
    Malformed (write s ++ tail) (.trailing tail.length)

theorem Malformed.ofBytes {f : Fault} (h : Malformed data f) : f.OfBytes := by
  cases h <;> trivial

/-! ## Each way has its fault -/

theorem lengthAt_append (hhead : head.length = lengthSize) (tail : Bytes) :
    lengthAt (head ++ tail) (0 : Nat) = .ok (signed head) := by
  rw [lengthAt_nat, if_neg (by rw [List.length_append]; omega), List.drop_zero, List.take_left' hhead]

theorem lengthAt_bigEndian_append (hn : n < 2 ^ 63) (tail : Bytes) :
    lengthAt (bigEndian lengthSize n ++ tail) (0 : Nat) = .ok (n : Int) :=
  lengthAt_eq_ok_iff.2 ⟨hn, [], tail, rfl, rfl⟩

theorem read_of_readAt_eq_error {f : Fault} (h : readAt data (0 : Nat) = .error f) :
    read data = .error f := by
  rw [read, show readAt data 0 = .error f from h]

/-- A record is read if nothing follows it, and otherwise what follows is reported. -/
theorem read_write_append {s : Source} (hs : Short s) (tail : Bytes) :
    read (write s ++ tail) = if tail = [] then .ok s else .error (.trailing tail.length) := by
  have hread : readAt (write s ++ tail) 0 = .ok (s, (s.pattern.length + 9 : Nat)) := by
    simpa using readAt_write hs [] tail
  have hlen : (write s ++ tail).length = s.pattern.length + 9 + tail.length := by simp
  simp only [read, hread, hlen]
  by_cases htail : tail = []
  · rw [if_pos (by rw [htail]; rfl), if_pos htail]
  · have hpos : tail.length ≠ 0 := mt List.length_eq_zero_iff.1 htail
    have hcount : ((s.pattern.length + 9 + tail.length : Nat) : Int) - (s.pattern.length + 9 : Nat) =
        tail.length := by omega
    rw [if_neg (by omega), if_neg htail, hcount]

/-- **A record is read as the source it was written from.** -/
theorem read_write {s : Source} (hs : Short s) : read (write s) = .ok s := by
  simpa using read_write_append hs []

/-- Each way of being no record is answered with its fault. -/
theorem Malformed.read_eq {f : Fault} (h : Malformed data f) : read data = .error f := by
  cases h with
  | noLength h =>
    apply read_of_readAt_eq_error
    rw [readAt_eq, lengthAt_nat, if_pos (by omega)]
  | negative hhead h tail =>
    apply read_of_readAt_eq_error
    rw [readAt_eq, lengthAt_append hhead]
    exact if_pos h
  | @tooLong n hn tail h =>
    apply read_of_readAt_eq_error
    have hlen : (bigEndian lengthSize n ++ tail).length = lengthSize + tail.length := by simp
    rw [readAt_of_lengthAt (lengthAt_bigEndian_append hn tail), List.getElem?_eq_none (by omega), hlen]
    simp
  | @flag pattern hn b h tail =>
    apply read_of_readAt_eq_error
    rw [readAt_of_lengthAt (lengthAt_bigEndian_append hn _)]
    have hflag : (bigEndian lengthSize pattern.length ++ (pattern ++ b :: tail))[
        0 + lengthSize + pattern.length]? = some b := by
      simp
    rw [hflag]
    exact if_pos h
  | trailing hs h => rw [read_write_append hs, if_neg h]

/-! ## There is no other way -/

/-- What follows a length that leaves room for it is a pattern and a flag. -/
theorem exists_pattern_of_lt (h : n < tail.length) :
    ∃ (pattern : Bytes) (b : UInt8) (rest : Bytes), pattern.length = n ∧ tail = pattern ++ b :: rest :=
  ⟨tail.take n, tail[n], tail.drop (n + 1), by simp; omega, by simp⟩

/-- **Bytes are a record or malformed.** -/
theorem record_or_malformed (data : Bytes) :
    (∃ s, Short s ∧ data = write s) ∨ ∃ f, Malformed data f := by
  by_cases hshort : data.length < lengthSize
  · exact .inr ⟨_, .noLength hshort⟩
  obtain ⟨head, tail, hhead, rfl⟩ : ∃ head tail, head.length = lengthSize ∧ data = head ++ tail :=
    ⟨data.take lengthSize, data.drop lengthSize, by simp; omega, by simp⟩
  by_cases hneg : signed head < 0
  · exact .inr ⟨_, .negative hhead hneg tail⟩
  obtain ⟨n, hn⟩ := Int.eq_ofNat_of_zero_le (Int.not_lt.1 hneg)
  obtain ⟨hlt, rfl⟩ := eq_bigEndian_of_signed hhead hn
  by_cases hroom : n < tail.length
  · obtain ⟨pattern, b, rest, rfl, rfl⟩ := exists_pattern_of_lt hroom
    by_cases hflag : b = 0 ∨ b = 1
    · have hs : Short ⟨pattern, b == 1⟩ := hlt
      have hwrite : bigEndian lengthSize pattern.length ++ (pattern ++ b :: rest) =
          write ⟨pattern, b == 1⟩ ++ rest := by
        rw [write_append, flagByte_of_eq hflag]
      rw [hwrite]
      by_cases hrest : rest = []
      · exact .inl ⟨_, hs, by rw [hrest, List.append_nil]⟩
      · exact .inr ⟨_, .trailing hs hrest⟩
    · exact .inr ⟨_, .flag hlt (not_or.1 hflag) rest⟩
  · exact .inr ⟨_, .tooLong hlt (Nat.not_lt.1 hroom)⟩

/-- Bytes are read as a source exactly if they are its record. -/
theorem read_eq_ok_iff {s : Source} : read data = .ok s ↔ Short s ∧ data = write s := by
  constructor
  · intro h
    obtain ⟨t, ht, rfl⟩ | ⟨f, hf⟩ := record_or_malformed data
    · rw [read_write ht] at h
      cases h
      exact ⟨ht, rfl⟩
    · cases h.symm.trans hf.read_eq
  · rintro ⟨hs, rfl⟩
    exact read_write hs

/-- A fault is reported exactly if the bytes have it. -/
theorem read_eq_error_iff {f : Fault} : read data = .error f ↔ Malformed data f := by
  constructor
  · intro h
    obtain ⟨t, ht, rfl⟩ | ⟨g, hg⟩ := record_or_malformed data
    · cases h.symm.trans (read_write ht)
    · obtain rfl := Except.error.inj (h.symm.trans hg.read_eq)
      exact hg
  · exact Malformed.read_eq

/-- **Exactly the records are read.** Bytes are read as a source if and only if they are its record, and
bytes that are the record of no source give a fault, which is one of the bytes and says in which way they
are malformed. What is read is written again byte for byte. -/
theorem read_accepts_records_only :
    (∀ (data : Bytes) (s : Source), Short s → (read data = .ok s ↔ data = write s)) ∧
    (∀ data : Bytes, (∀ s : Source, Short s → data ≠ write s) ↔
      ∃ f : Fault, f.OfBytes ∧ read data = .error f) ∧
    (∀ (data : Bytes) (f : Fault), read data = .error f ↔ Malformed data f) ∧
    (∀ (data : Bytes) (s : Source), read data = .ok s → Short s ∧ write s = data) := by
  refine ⟨fun data s hs => ?_, fun data => ⟨fun h => ?_, ?_⟩, fun _ _ => read_eq_error_iff,
    fun data s h => ?_⟩
  · rw [read_eq_ok_iff]
    exact and_iff_right hs
  · obtain ⟨s, hs, hdata⟩ | ⟨f, hf⟩ := record_or_malformed data
    · exact absurd hdata (h s hs)
    · exact ⟨f, hf.ofBytes, hf.read_eq⟩
  · rintro ⟨f, -, hf⟩ s hs rfl
    cases hf.symm.trans (read_write hs)
  · obtain ⟨hs, rfl⟩ := read_eq_ok_iff.1 h
    exact ⟨hs, rfl⟩

/-- A record of a pattern that is not UTF-8, and the same bytes with a flag that is none. -/
theorem read_with_both_flags :
    Short ⟨[0xFF], true⟩ ∧ read [0, 0, 0, 0, 0, 0, 0, 1, 0xFF, 1] = .ok ⟨[0xFF], true⟩ ∧
      read [0, 0, 0, 0, 0, 0, 0, 1, 0xFF, 2] = .error (.badFlag 2) ∧
      ∀ s : Source, Short s → [0, 0, 0, 0, 0, 0, 0, 1, 0xFF, 2] ≠ write s := by
  have hshort : Short ⟨[0xFF], true⟩ := by simp [Short]
  have hlen : [(0xFF : UInt8)].length < 2 ^ 63 := hshort
  obtain ⟨hread, hrefused, hways, -⟩ := read_accepts_records_only
  have hflag : read [0, 0, 0, 0, 0, 0, 0, 1, 0xFF, 2] = .error (.badFlag 2) :=
    (hways _ _).2 (.flag hlen (by decide) [])
  exact ⟨hshort, (hread _ _ hshort).2 (by decide), hflag, (hrefused _).2 ⟨.badFlag 2, trivial, hflag⟩⟩

end Record

end RuleRegex
