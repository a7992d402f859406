import RuleRegex.Proofs.Regex.Compiled

/-!
# The groups of a match

The engine says of a match how many groups to look at and where they stand. Behind the last group that
was set its words mean nothing, and before it some groups may have taken no part. The offsets of the
groups and their bytes are two views of this, which fail together, find nothing together, and agree group
by group.

## Main definitions

* `Outcome.Sound`, `Engine.Sound` — what the engine promises of a match.
* `Outcome.Unset` — a group took no part in a match.
* `Regex.Groups` — offsets and bytes are the groups of one match.
* `Regex.TwoViews` — offsets and bytes are two views of one result.
-/

namespace RuleRegex

/-- No group with the given number has both offsets set. -/
def Outcome.Unset (o : Outcome) (i : Nat) : Prop :=
  ∀ start stop, o.pairs[i]? ≠ some (some start, some stop)

/-- What the engine promises of a match with so many groups. Of the pairs that its number does not reach
it promises nothing. -/
structure Outcome.Sound (o : Outcome) (count : Nat) (subject : Bytes) : Prop where
  code : 1 ≤ o.code ∧ o.code ≤ count + 1
  pair : ∀ (i : Nat) start stop, (i : Int) < o.code → o.pairs[i]? = some (some start, some stop) →
    start ≤ stop ∧ stop ≤ subject.length
  /-- The whole match is there and not empty. -/
  whole : ∃ start stop, o.pairs[0]? = some (some start, some stop) ∧ start < stop

/-- Whatever the engine calls a match keeps the promise. -/
def Engine.Sound {Code : Type} (engine : Engine Code) : Prop :=
  ∀ code limits subject, 0 ≤ (engine.run code limits subject).code →
    (engine.run code limits subject).Sound (engine.captureCount code) subject

namespace Regex

variable {Code : Type} {engine : Engine Code} {r : Regex Code} {c : Config} {s : Source} {o : Outcome}
  {count i start stop : Nat} {subject : Bytes}

/-! ## The offsets of a group -/

theorem spanOf_eq_some_iff {p : Option Nat × Option Nat} :
    spanOf p = some (start, stop) ↔ p = (some start, some stop) := by
  rcases p with ⟨_ | a, _ | b⟩ <;> simp [spanOf]

theorem length_spansOf (count : Nat) (o : Outcome) : (spansOf count o).length = count + 1 := by
  rw [spansOf, List.length_map, List.length_range]

/-- A group has the span of its pair of offsets, unless the number of the match does not reach it. -/
theorem getElem?_spansOf (o : Outcome) (h : i < count + 1) :
    (spansOf count o)[i]? =
      some (if o.code ≤ (i : Int) then none else (o.pairs[i]?).bind spanOf) := by
  rw [spansOf, List.getElem?_map, List.getElem?_range h]
  rfl

theorem lt_of_getElem?_spansOf {span : Option Span} (h : (spansOf count o)[i]? = some span) :
    i < count + 1 := by
  rw [← length_spansOf count o]
  exact (List.getElem?_eq_some_iff.1 h).1

/-- A group has offsets if the engine's number reaches it and it took part. -/
theorem getElem?_spansOf_eq_some_iff :
    (spansOf count o)[i]? = some (some (start, stop)) ↔
      i < count + 1 ∧ (i : Int) < o.code ∧ o.pairs[i]? = some (some start, some stop) := by
  constructor
  · intro h
    have hi := lt_of_getElem?_spansOf h
    rw [getElem?_spansOf o hi] at h
    split at h
    · cases h
    · next hcode =>
      obtain ⟨p, hp, hspan⟩ := Option.bind_eq_some_iff.1 (Option.some.inj h)
      rw [spanOf_eq_some_iff.1 hspan] at hp
      exact ⟨hi, Int.not_le.1 hcode, hp⟩
  · rintro ⟨hi, hcode, hp⟩
    rw [getElem?_spansOf o hi, if_neg (Int.not_le.2 hcode), hp]
    rfl

/-- A group has no span exactly if the number of the match does not reach it or its pair is unset. -/
theorem getElem?_spansOf_eq_none_iff (hi : i < count + 1) :
    (spansOf count o)[i]? = some none ↔ o.code ≤ (i : Int) ∨ o.Unset i := by
  constructor
  · intro h
    by_contra hset
    simp only [Outcome.Unset, not_or, not_forall, not_not, Int.not_le] at hset
    obtain ⟨hcode, start, stop, hp⟩ := hset
    cases h.symm.trans (getElem?_spansOf_eq_some_iff.2 ⟨hi, hcode, hp⟩)
  · intro h
    obtain ⟨span, hspan⟩ : ∃ span, (spansOf count o)[i]? = some span :=
      ⟨_, getElem?_spansOf o hi⟩
    rcases span with _ | ⟨start, stop⟩
    · exact hspan
    · obtain ⟨-, hcode, hp⟩ := getElem?_spansOf_eq_some_iff.1 hspan
      rcases h with h | h
      · exact absurd h (Int.not_le.2 hcode)
      · exact absurd hp (h start stop)

/-! ## The bytes of a group -/

theorem slice_eq_extract (subject : Bytes) (start stop : Nat) :
    slice subject (some (start, stop)) = subject.extract start stop := by
  rw [slice, List.extract_eq_take_drop, List.drop_take]

theorem extract_ne_nil (h : start < stop) (hstop : stop ≤ subject.length) :
    subject.extract start stop ≠ [] := by
  rw [← List.length_pos_iff, List.extract_eq_take_drop, List.length_take, List.length_drop]
  omega

structure Groups (o : Outcome) (count : Nat) (subject : Bytes) (found : List (Option Span))
    (captured : List Bytes) : Prop where
  length_found : found.length = count + 1
  length_captured : captured.length = count + 1
  /-- A group is missing if the engine's number does not reach it or it took no part. -/
  missing_iff : ∀ i < count + 1, found[i]? = some none ↔ o.code ≤ (i : Int) ∨ o.Unset i
  /-- The offsets of a group are those of its pair and lie within the subject. -/
  span : ∀ (i : Nat) start stop, found[i]? = some (some (start, stop)) →
    o.pairs[i]? = some (some start, some stop) ∧ start ≤ stop ∧ stop ≤ subject.length
  /-- The bytes of a group are those between its offsets. -/
  bytes : ∀ (i : Nat) start stop, found[i]? = some (some (start, stop)) →
    captured[i]? = some (subject.extract start stop)
  bytes_missing : ∀ i : Nat, found[i]? = some none → captured[i]? = some []
  whole : ∃ first, captured[0]? = some first ∧ first ≠ []

/-- **Offsets and bytes agree group by group** in a match that keeps the engine's promise. -/
theorem groups_spansOf (h : o.Sound count subject) :
    Groups o count subject (spansOf count o) ((spansOf count o).map (slice subject)) where
  length_found := length_spansOf count o
  length_captured := by rw [List.length_map, length_spansOf]
  missing_iff i hi := getElem?_spansOf_eq_none_iff hi
  span i start stop hspan := by
    obtain ⟨-, hcode, hp⟩ := getElem?_spansOf_eq_some_iff.1 hspan
    exact ⟨hp, h.pair i start stop hcode hp⟩
  bytes i start stop hspan := by
    rw [List.getElem?_map, hspan, Option.map_some, slice_eq_extract]
  bytes_missing i hmissing := by
    rw [List.getElem?_map, hmissing]
    rfl
  whole := by
    obtain ⟨start, stop, hp, hlt⟩ := h.whole
    have hcode : ((0 : Nat) : Int) < o.code := h.code.1
    have hspan := getElem?_spansOf_eq_some_iff.2 ⟨Nat.succ_pos count, hcode, hp⟩
    refine ⟨subject.extract start stop, ?_, extract_ne_nil hlt (h.pair 0 start stop hcode hp).2⟩
    rw [List.getElem?_map, hspan, Option.map_some, slice_eq_extract]

/-! ## The two views -/

/-- The bytes are cut out of the subject at the offsets. -/
theorem match_proper (subject : Bytes) :
    r.match engine (.proper subject) =
      (r.spans engine (.proper subject)).map (Option.map (List.map (slice subject))) := by
  rw [Regex.match]
  split <;> simp [*, Except.map]

/-- A subject that is bytes can only fail to be matched in the engine. -/
theorem exists_of_match_proper {e : MatchError} (h : r.match engine (.proper subject) = .error e) :
    ∃ b, e = .failed b := by
  rw [match_proper, spans_proper, report] at h
  split at h
  · cases h
  split at h
  · cases h
    exact ⟨_, rfl⟩
  · cases h

/-- A match has one part more than the pattern has groups. -/
theorem length_of_match_proper {captures : List Bytes}
    (h : r.match engine (.proper subject) = .ok (some captures)) :
    captures.length = r.captureCount + 1 := by
  rw [match_proper, spans_proper, report] at h
  split at h
  · cases h
  split at h
  · cases h
  · cases h
    rw [List.length_map, length_spansOf]

/-- Offsets and bytes are two views of one result. Which result it is depends on the subject and on the
number that the engine gives. -/
inductive TwoViews (engine : Engine Code) (r : Regex Code) : Given Bytes →
    Except MatchError (Option (List (Option Span))) → Except MatchError (Option (List Bytes)) → Prop
  | notBytes (kind : String) :
    TwoViews engine r (.improper kind) (.error (.notBytes kind)) (.error (.notBytes kind))
  | failed {subject : Bytes} {code : Int} (hcode : (engine.run r.code r.limits subject).code = code)
    (hneg : code < 0) (hne : code ≠ noMatchCode) :
    TwoViews engine r (.proper subject)
      (.error (.failed { code := some code, message := engine.message code }))
      (.error (.failed { code := some code, message := engine.message code }))
  | noMatch {subject : Bytes} (hcode : (engine.run r.code r.limits subject).code = noMatchCode) :
    TwoViews engine r (.proper subject) (.ok none) (.ok none)
  | matched {subject : Bytes} {found : List (Option Span)} {captured : List Bytes}
    (hcode : 1 ≤ (engine.run r.code r.limits subject).code)
    (hgroups : Groups (engine.run r.code r.limits subject) r.captureCount subject found captured) :
    TwoViews engine r (.proper subject) (.ok (some found)) (.ok (some captured))

/-- **The offsets and the bytes of a match are two views of one result.** -/
theorem match_and_spans_agree (hengine : engine.Sound) (h : compile engine c s = .ok r)
    (subject : Given Bytes) :
    TwoViews engine r subject (r.spans engine subject) (r.match engine subject) := by
  cases subject with
  | improper kind => exact .notBytes kind
  | proper subject =>
    rw [match_proper, spans_proper, report]
    split
    · next hnone => exact .noMatch hnone
    split
    · next hne hneg => exact .failed rfl hneg hne
    · next hneg =>
      have hsound := hengine r.code r.limits subject (Int.not_lt.1 hneg)
      rw [← (of_compile h).2.2] at hsound
      exact .matched hsound.code.1 (groups_spansOf hsound)

/-- An engine that knows one pattern, `(a)|(b)(x)?`, and one subject, in which its second group stands at
the end. Behind it are words that mean nothing. -/
def groupsEngine : Engine Unit where
  loads _ := true
  compile _ _ := .ok ()
  captureCount _ := 3
  run _ _ subject :=
    if subject = [0x78, 0x78, 0x62] then
      ⟨3, [(some 2, some 3), (none, none), (some 2, some 3), (some 9, some 1)]⟩
    else ⟨noMatchCode, []⟩
  message _ := ""

theorem sound_groupsEngine : groupsEngine.Sound := by
  intro code limits subject hcode
  simp only [groupsEngine] at hcode ⊢
  split at hcode
  · next hsubject =>
    subst hsubject
    refine ⟨by decide, fun i start stop hi hp => ?_, 2, 3, rfl, by decide⟩
    have hspan : start = 2 ∧ stop = 3 := by
      rcases i with _ | _ | _ | i
      · simpa [eq_comm] using hp
      · cases hp
      · simpa [eq_comm] using hp
      · simp at hi
        omega
    obtain ⟨rfl, rfl⟩ := hspan
    decide
  · cases hcode

/-- A group that took no part stands before one that did, and another one behind it. -/
theorem match_and_spans_of_alternatives :
    let s : Source := ⟨Utf8.encode "(a)|(b)(x)?".toList, true⟩
    let r : Regex Unit := ⟨s, (), none, true, 3⟩
    groupsEngine.Sound ∧ compile groupsEngine {} s = .ok r ∧
      TwoViews groupsEngine r (.proper [0x78, 0x78, 0x62])
        (.ok (some [some (2, 3), none, some (2, 3), none])) (.ok (some [[0x62], [], [0x62], []])) := by
  intro s r
  have hcompile : compile groupsEngine {} s = .ok r := rfl
  exact ⟨sound_groupsEngine, hcompile,
    match_and_spans_agree sound_groupsEngine hcompile (.proper [0x78, 0x78, 0x62])⟩

end Regex

end RuleRegex
