import RuleRegex.Proofs.Record.Codec

/-!
# Records one after the other

Reading record after record ends whatever the bytes are. It gives a list of sources without a fault
exactly on the records of that list one after the other, so the bytes say where each record stops.

## Main definitions

* `Record.Reads` — reading again and again from an offset on, as long as it is below the length.
* `Record.ReadsExactly` — reading from the start gives these sources, no fault, and stops at the
  length.
-/

namespace RuleRegex

namespace Record

variable {buffer : Bytes}

/-! ## One record -/

/-- What is read at an offset is what has its record there. -/
theorem readAt_eq_ok_iff_between {k : Nat} {s : Source} {stop : Int} :
    readAt buffer k = .ok (s, stop) ↔
      Short s ∧ stop = k + s.pattern.length + 9 ∧ stop ≤ buffer.length ∧
        between buffer k stop = write s := by
  constructor
  · intro h
    obtain ⟨hs, before, after, rfl, rfl, rfl⟩ := exists_of_readAt_eq_ok h
    have hlen : (before ++ write s ++ after).length =
        before.length + (s.pattern.length + 9) + after.length := by simp [Nat.add_assoc]
    refine ⟨hs, by omega, by omega, ?_⟩
    rw [between_nat (by omega) (by omega), Nat.add_sub_cancel_left, List.append_assoc, List.drop_left,
      List.take_left' (length_write s)]
  · rintro ⟨hs, rfl, hle, h⟩
    have hstop : (k : Int) + s.pattern.length + 9 = (k + (s.pattern.length + 9) : Nat) := by omega
    rw [hstop, between_nat (by omega) (by omega), Nat.add_sub_cancel_left] at h
    have hk : (buffer.take k).length = k := by
      rw [List.length_take]
      omega
    have hparts : buffer.take k ++ write s ++ buffer.drop (k + (s.pattern.length + 9)) = buffer := by
      rw [← h, List.append_assoc, ← List.drop_drop, List.take_append_drop (s.pattern.length + 9),
        List.take_append_drop]
    have hread := readAt_write hs (buffer.take k) (buffer.drop (k + (s.pattern.length + 9)))
    rwa [hparts, hk, ← hstop] at hread

/-- Where no source is read there is a fault of the bytes. -/
theorem exists_ofBytes_iff {k : Nat} :
    (∃ f : Fault, f.OfBytes ∧ readAt buffer k = .error f) ↔
      ∀ s stop, readAt buffer k ≠ .ok (s, stop) := by
  constructor
  · rintro ⟨f, -, h⟩ s stop hs
    rw [h] at hs
    cases hs
  · intro h
    cases hr : readAt buffer k with
    | error f => exact ⟨f, ofBytes_of_readAt_eq_error hr, rfl⟩
    | ok p => exact absurd hr (h p.1 p.2)

/-! ## Reading on -/

/-- Reading again and again from an offset on, as long as it is below the length: each record that is
read gives the next offset, and a fault is the last thing there is. -/
inductive Reads (buffer : Bytes) : Int → List (Except Fault (Source × Int)) → Prop
  | done {offset : Int} (h : (buffer.length : Int) ≤ offset) : Reads buffer offset []
  | fault {offset : Int} {f : Fault} (hlt : offset < buffer.length)
      (h : readAt buffer offset = .error f) : Reads buffer offset [.error f]
  | next {offset stop : Int} {s : Source} {out : List (Except Fault (Source × Int))}
      (hlt : offset < buffer.length) (h : readAt buffer offset = .ok (s, stop))
      (rest : Reads buffer stop out) : Reads buffer offset (.ok (s, stop) :: out)

theorem Reads.eq {offset : Int} {out out' : List (Except Fault (Source × Int))}
    (h : Reads buffer offset out) (h' : Reads buffer offset out') : out = out' := by
  induction h generalizing out' with
  | done hle =>
    cases h' with
    | done => rfl
    | fault hlt | next hlt => omega
  | fault hlt hf =>
    cases h' with
    | done hle => omega
    | fault _ hf' => rw [Except.error.inj (hf.symm.trans hf')]
    | next _ hs => cases hf.symm.trans hs
  | next hlt hs _ ih =>
    cases h' with
    | done hle => omega
    | fault _ hf => cases hs.symm.trans hf
    | next _ hs' rest' =>
      obtain ⟨rfl, rfl⟩ := Prod.mk.inj (Except.ok.inj (hs.symm.trans hs'))
      rw [ih rest']

/-- Every record takes bytes, so more steps than there are bytes left are enough. -/
theorem reads_readFrom {fuel k : Nat} (h : buffer.length < k + fuel) :
    Reads buffer k (readFrom buffer fuel k) := by
  induction fuel generalizing k with
  | zero => exact .done (by omega)
  | succ fuel ih =>
    rw [readFrom]
    split
    · next hlt =>
      cases hr : readAt buffer k with
      | error f => exact .fault hlt hr
      | ok p =>
        obtain ⟨s, stop⟩ := p
        obtain ⟨-, -, -, -, -, rfl⟩ := exists_of_readAt_eq_ok hr
        exact .next hlt hr (ih (by omega))
    · next hle => exact .done (by omega)

/-- **Reading record after record ends**, and what it gives is all there is to read. -/
theorem reads_iff {out : List (Except Fault (Source × Int))} :
    Reads buffer 0 out ↔ out = readAll buffer := by
  have hall : Reads buffer (0 : Nat) (readAll buffer) := reads_readFrom (by omega)
  constructor
  · intro h
    exact h.eq hall
  · rintro rfl
    exact hall

/-! ## Streams -/

/-- Sources, each with the offset past its record, if the first record starts at an offset. -/
def placed : Nat → List Source → List (Source × Int)
  | _, [] => []
  | k, s :: sources =>
    (s, (k + (s.pattern.length + 9) : Nat)) :: placed (k + (s.pattern.length + 9)) sources

@[simp] theorem map_fst_placed (k : Nat) (sources : List Source) :
    (placed k sources).map Prod.fst = sources := by
  induction sources generalizing k with
  | nil => rfl
  | cons s sources ih => rw [placed, List.map_cons, ih]

/-- The last of the offsets is past all records. -/
theorem getLastD_placed (k : Nat) (sources : List Source) :
    ((placed k sources).map Prod.snd).getLastD k = (k + (sources.flatMap write).length : Nat) := by
  induction sources generalizing k with
  | nil => simp [placed]
  | cons s sources ih =>
    rw [placed, List.map_cons, List.getLastD_cons, ih, List.flatMap_cons, List.length_append,
      length_write, Nat.add_assoc]

/-- Records one after the other are read one after the other. -/
theorem reads_placed {sources : List Source} (hs : ∀ s ∈ sources, Short s) (before : Bytes) :
    Reads (before ++ sources.flatMap write) before.length
      ((placed before.length sources).map .ok) := by
  induction sources generalizing before with
  | nil => exact .done (by simp)
  | cons s sources ih =>
    have hfirst : before ++ (s :: sources).flatMap write =
        before ++ write s ++ sources.flatMap write := by
      rw [List.flatMap_cons, List.append_assoc]
    have hrest := ih (fun t ht => hs t (List.mem_cons_of_mem _ ht)) (before ++ write s)
    rw [List.length_append, length_write] at hrest
    rw [hfirst]
    refine .next ?_ (readAt_write (hs s List.mem_cons_self) before _) hrest
    simp only [List.length_append, length_write]
    omega

/-- What is read without a fault stands there, record after record, up to the end. -/
theorem drop_of_reads {steps : List (Source × Int)} {k : Nat} (hk : k ≤ buffer.length)
    (h : Reads buffer k (steps.map .ok)) :
    (∀ p ∈ steps, Short p.1) ∧ buffer.drop k = (steps.map Prod.fst).flatMap write := by
  induction steps generalizing k with
  | nil =>
    cases h with
    | done hle =>
      refine ⟨by simp, ?_⟩
      rw [List.drop_eq_nil_of_le (by omega)]
      rfl
  | cons p steps ih =>
    obtain ⟨s, stop⟩ := p
    cases h with
    | next hlt hr rest =>
      obtain ⟨hs, before, after, rfl, rfl, rfl⟩ := exists_of_readAt_eq_ok hr
      have hrest := ih (by simp [Nat.add_assoc]) rest
      have hafter : (before ++ write s ++ after).drop (before.length + (s.pattern.length + 9)) =
          after := List.drop_left' (by simp)
      rw [hafter] at hrest
      refine ⟨?_, ?_⟩
      · rintro q (_ | ⟨_, hq⟩)
        · exact hs
        · exact hrest.1 q hq
      · rw [List.append_assoc, List.drop_left, List.map_cons, List.flatMap_cons, hrest.2]

/-- Reading from the start gives these sources, no fault, and stops at the length of the bytes. -/
def ReadsExactly (buffer : Bytes) (sources : List Source) : Prop :=
  ∃ steps : List (Source × Int), Reads buffer 0 (steps.map .ok) ∧ steps.map Prod.fst = sources ∧
    (steps.map Prod.snd).getLastD 0 = buffer.length

/-- Reading gives sources exactly if the bytes are their records. -/
theorem readsExactly_iff {sources : List Source} :
    ReadsExactly buffer sources ↔ (∀ s ∈ sources, Short s) ∧ buffer = sources.flatMap write := by
  constructor
  · rintro ⟨steps, h, rfl, -⟩
    obtain ⟨hs, hdrop⟩ := drop_of_reads (k := 0) (Nat.zero_le _) h
    refine ⟨?_, hdrop⟩
    intro s hmem
    obtain ⟨p, hp, rfl⟩ := List.mem_map.1 hmem
    exact hs p hp
  · rintro ⟨hs, rfl⟩
    refine ⟨placed 0 sources, reads_placed hs [], map_fst_placed 0 sources, ?_⟩
    have hlast := getLastD_placed 0 sources
    rwa [Nat.zero_add] at hlast

/-- The bytes of a stream determine its sources. -/
theorem ReadsExactly.eq {sources sources' : List Source} (h : ReadsExactly buffer sources)
    (h' : ReadsExactly buffer sources') : sources = sources' := by
  obtain ⟨steps, hr, rfl, -⟩ := h
  obtain ⟨steps', hr', rfl, -⟩ := h'
  rw [(List.map_inj_right (fun _ _ => Except.ok.inj)).1 (hr.eq hr')]

/-- Lists of sources whose records are the same bytes are the same. -/
theorem eq_of_flatMap_write_eq {sources sources' : List Source} (hs : ∀ s ∈ sources, Short s)
    (hs' : ∀ s ∈ sources', Short s) (h : sources.flatMap write = sources'.flatMap write) :
    sources = sources' :=
  (readsExactly_iff.2 ⟨hs, rfl⟩).eq (readsExactly_iff.2 ⟨hs', h⟩)

/-- **Records are a self-delimiting stream.** At an offset that is not negative a source is read exactly
if its record stands there, and otherwise there is a fault of the bytes. Reading on from the start ends,
it gives a list of sources exactly on the records of the list, and no other list has these records. -/
theorem stream_selfDelimiting :
    (∀ (buffer : Bytes) (k : Nat) (s : Source) (stop : Int), readAt buffer k = .ok (s, stop) ↔
      Short s ∧ stop = k + s.pattern.length + 9 ∧ stop ≤ buffer.length ∧
        between buffer k stop = write s) ∧
    (∀ (buffer : Bytes) (k : Nat), (∃ f : Fault, f.OfBytes ∧ readAt buffer k = .error f) ↔
      ∀ s stop, readAt buffer k ≠ .ok (s, stop)) ∧
    (∀ (buffer : Bytes) (out : List (Except Fault (Source × Int))),
      Reads buffer 0 out ↔ out = readAll buffer) ∧
    (∀ (buffer : Bytes) (sources : List Source),
      ReadsExactly buffer sources ↔ (∀ s ∈ sources, Short s) ∧ buffer = sources.flatMap write) ∧
    (∀ sources sources' : List Source, (∀ s ∈ sources, Short s) → (∀ s ∈ sources', Short s) →
      sources.flatMap write = sources'.flatMap write → sources = sources') :=
  ⟨fun _ _ _ _ => readAt_eq_ok_iff_between, fun _ _ => exists_ofBytes_iff, fun _ _ => reads_iff,
    fun _ _ => readsExactly_iff, fun _ _ => eq_of_flatMap_write_eq⟩

/-- Two records, the second of them the shortest there is. -/
theorem stream_of_two_records :
    readAt [0, 0, 0, 0, 0, 0, 0, 1, 0x61, 1, 0, 0, 0, 0, 0, 0, 0, 0, 0] 10 = .ok (⟨[], false⟩, 19) ∧
    ReadsExactly [0, 0, 0, 0, 0, 0, 0, 1, 0x61, 1, 0, 0, 0, 0, 0, 0, 0, 0, 0]
      [⟨[0x61], true⟩, ⟨[], false⟩] ∧
    [(⟨[0x61], true⟩ : Source)] = [⟨bigEndian 1 0x61, true⟩] := by
  have hshort : ∀ s ∈ [(⟨[0x61], true⟩ : Source), ⟨[], false⟩], Short s := by
    simp [Short]
  obtain ⟨hread, -, -, hexact, hunique⟩ := stream_selfDelimiting
  refine ⟨(hread _ 10 _ _).2 ⟨by simp [Short], by decide, by decide, by decide⟩,
    (hexact _ _).2 ⟨hshort, by decide⟩, ?_⟩
  exact hunique _ _ (by simp [Short]) (by simp [Short, bigEndian]) (by decide)

end Record

end RuleRegex
