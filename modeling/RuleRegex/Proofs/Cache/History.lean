import RuleRegex.Proofs.Cache.Recency
import RuleRegex.Proofs.Cache.Room
import RuleRegex.Session

/-!
# What a cache has been asked

The calls a cache has had say what it holds: the sources it returned a regex for since it was last
cleared, by last use, as far as they fit. They also say which call is a hit.

## Main definitions

* `Call` — a call of a cache, with whether it returned.
* `History.recency` — the sources returned since the last clearing, by last use.
* `History.Hit` — a call asks for a source that is among the most recent.
* `Cache.Follows` — a cache is as its history says.
-/

namespace RuleRegex

/-- A call of a cache: it is asked for a regex and returns it or fails, or it is cleared. -/
inductive Call where
  | returned (source : Source)
  | failed (source : Source)
  | cleared
  deriving DecidableEq, Repr

namespace Call

def source? : Call → Option Source
  | returned source | failed source => some source
  | cleared => none

def returned? : Call → Option Source
  | returned source => some source
  | failed _ | cleared => none

def ofRequest {Code : Type} (source : Source) : Except RequestError (Object Code) → Call
  | .ok _ => returned source
  | .error _ => failed source

theorem source?_returned (source : Source) : (returned source).source? = some source := rfl

theorem source?_failed (source : Source) : (failed source).source? = some source := rfl

theorem ne_cleared {call : Call} {source : Source} (h : call.source? = some source) :
    call ≠ cleared := by
  rintro rfl
  cases h

end Call

namespace History

/-- The calls since the last clearing. -/
def current (calls : List Call) : List Call := calls.rtakeWhile (· ≠ .cleared)

/-- The sources whose regexes were returned since the last clearing. -/
def returned (calls : List Call) : List Source := (current calls).filterMap Call.returned?

/-- The sources returned since the last clearing, each at its last use. -/
def recency (calls : List Call) : List Source := (returned calls).dedup

/-- The call at a position asks for a source that was returned since the last clearing and has had
fewer than `size` others returned after it. -/
def Hit (size : Nat) (calls : List Call) (i : Nat) : Prop :=
  ∃ source, calls[i]?.bind Call.source? = some source ∧ Recent size (returned (calls.take i)) source

instance (size : Nat) (calls : List Call) (i : Nat) : Decidable (Hit size calls i) :=
  match h : calls[i]?.bind Call.source? with
  | some source =>
    decidable_of_iff (Recent size (returned (calls.take i)) source) (by simp [Hit, h])
  | none => isFalse (by simp [Hit, h])

def hits (size : Nat) (calls : List Call) : Nat :=
  (List.range (current calls).length).countP (Hit size (current calls))

def misses (size : Nat) (calls : List Call) : Nat :=
  (List.range (current calls).length).countP (¬Hit size (current calls) ·)

variable {size : Nat} {calls : List Call} {call : Call} {source : Source}

/-! ## One more call -/

theorem current_cleared (calls : List Call) : current (calls ++ [.cleared]) = [] :=
  List.rtakeWhile_concat_neg _ _ _ (by simp)

theorem current_append (h : call.source? = some source) :
    current (calls ++ [call]) = current calls ++ [call] :=
  List.rtakeWhile_concat_pos _ _ _ (by simpa using Call.ne_cleared h)

theorem current_current (calls : List Call) : current (current calls) = current calls :=
  List.rtakeWhile_idempotent _ _

theorem returned_current (calls : List Call) : returned (current calls) = returned calls := by
  rw [returned, current_current, returned]

theorem returned_append (h : call.source? = some source) :
    returned (calls ++ [call]) = returned calls ++ call.returned?.toList := by
  rw [returned, current_append h, List.filterMap_append, returned]
  cases call <;> rfl

/-- What has been asked later does not change whether a call was a hit. -/
theorem hit_append_of_lt {i : Nat} (hi : i < calls.length) :
    Hit size (calls ++ [call]) i ↔ Hit size calls i := by
  rw [Hit, Hit, List.getElem?_append_left hi, List.take_append_of_le_length (by omega)]

theorem hit_length_iff (h : call.source? = some source) :
    Hit size (calls ++ [call]) calls.length ↔ Recent size (returned calls) source := by
  simp [Hit, h]

/-- Counting positions up to one more. -/
theorem countP_range_succ {p q : Nat → Bool} {n : Nat} (h : ∀ i < n, p i = q i) :
    (List.range (n + 1)).countP p = (List.range n).countP q + if p n then 1 else 0 := by
  rw [List.range_succ, List.countP_append, List.countP_singleton]
  congr 1
  apply List.countP_congr
  intro i hi
  rw [h i (List.mem_range.1 hi)]

/-- A request counts as a hit if its source was returned recently. -/
theorem hits_append (h : call.source? = some source) :
    hits size (calls ++ [call]) =
      hits size calls + if Recent size (returned calls) source then 1 else 0 := by
  rw [hits, current_append h, List.length_append, List.length_singleton,
    countP_range_succ (q := fun i => decide (Hit size (current calls) i))]
  · simp only [decide_eq_true_eq, hit_length_iff h, returned_current]
    rfl
  · intro i hi
    rw [decide_eq_decide]
    exact hit_append_of_lt hi

theorem misses_append (h : call.source? = some source) :
    misses size (calls ++ [call]) =
      misses size calls + if Recent size (returned calls) source then 0 else 1 := by
  rw [misses, current_append h, List.length_append, List.length_singleton,
    countP_range_succ (q := fun i => decide (¬Hit size (current calls) i))]
  · simp only [decide_eq_true_eq, hit_length_iff h, returned_current, ite_not]
    rfl
  · intro i hi
    rw [decide_eq_decide]
    exact not_congr (hit_append_of_lt hi)

/-! ## Larger sizes -/

/-- What is a hit for one size is a hit for a larger one. -/
theorem hits_le_hits {size' : Nat} (h : size ≤ size') (calls : List Call) :
    hits size calls ≤ hits size' calls := by
  apply List.countP_mono_left
  intro i _ hi
  rw [decide_eq_true_eq] at hi ⊢
  obtain ⟨source, hsource, hrecent⟩ := hi
  exact ⟨source, hsource, hrecent.mono h⟩

/-- Every call since the last clearing is a hit or a miss. -/
theorem hits_add_misses (size : Nat) (calls : List Call) :
    hits size calls + misses size calls = (current calls).length := by
  calc hits size calls + misses size calls
      = (List.range (current calls).length).length := by
        rw [List.length_eq_countP_add_countP fun i => decide (Hit size (current calls) i), hits, misses]
        simp only [decide_eq_true_eq]
    _ = (current calls).length := List.length_range

end History

namespace Cache

open History

variable {Code : Type} {c : Cache Code} {size : Nat} {calls : List Call} {source : Source}
  {o : Object Code}

/-! ## What a cache holds -/

theorem find?_eq_none_iff : c.find? source = none ↔ source ∉ c.sources := by
  rw [find?, List.lookup_eq_none_iff, sources, List.mem_map]
  constructor
  · rintro h ⟨p, hp, rfl⟩
    simpa using h p hp
  · intro h p hp
    rw [bne_iff_ne]
    rintro rfl
    exact h ⟨p, hp, rfl⟩

/-- A source is found exactly if it is held. -/
theorem exists_find?_iff : (∃ o, c.find? source = some o) ↔ source ∈ c.sources := by
  rw [← Option.isSome_iff_exists, ← not_iff_not, Bool.not_eq_true, Option.isSome_eq_false_iff,
    Option.isNone_iff_eq_none, find?_eq_none_iff]

/-- A renewed entry stands at the end, and once. -/
theorem map_fst_renewed (entries : List (Source × Object Code)) (source : Source) (o : Object Code) :
    (renewed entries source o).map Prod.fst =
      (entries.map Prod.fst).filter (· ≠ source) ++ [source] := by
  rw [renewed, List.map_append, List.filter_map]
  rfl

theorem map_fst_trimmed (size : Nat) (entries : List (Source × Object Code)) :
    (trimmed size entries).map Prod.fst = (entries.map Prod.fst).rtake size := by
  rw [trimmed, List.map_drop, List.rtake, List.length_map]

structure Follows (size : Nat) (calls : List Call) (c : Cache Code) : Prop where
  maxSize : c.maxSize = size
  sources : c.sources = (recency calls).rtake size
  hits : c.hits = History.hits size calls
  misses : c.misses = History.misses size calls

theorem follows_new (size : Nat) : Follows size [] ({ maxSize := size } : Cache Code) where
  maxSize := rfl
  sources := by simp [Cache.sources, recency, returned, current]
  hits := rfl
  misses := rfl

/-- A cleared cache follows its history, which starts over. -/
theorem Follows.clear (h : Follows size calls c) : Follows size (calls ++ [.cleared]) c.clear where
  maxSize := h.maxSize
  sources := by
    simp [Cache.sources, Cache.clear, recency, returned, current_cleared]
  hits := by
    rw [History.hits, current_cleared]
    rfl
  misses := by
    rw [History.misses, current_cleared]
    rfl

/-- A source is held exactly if it is recent. -/
theorem Follows.exists_find?_iff (h : Follows size calls c) :
    (∃ o, c.find? source = some o) ↔ Recent size (returned calls) source := by
  rw [Cache.exists_find?_iff, h.sources]
  exact mem_rtake_dedup_iff

/-- What is not found was not returned recently. -/
theorem Follows.not_recent (h : Follows size calls c) (hfind : c.find? source = none) :
    ¬Recent size (returned calls) source := by
  rw [← h.exists_find?_iff, hfind]
  exact nofun

/-- The most recent sources after one more has been returned, whether what does not fit was dropped
before. -/
theorem rtake_recency_returned (size : Nat) (calls : List Call) (source : Source) :
    (recency (calls ++ [.returned source])).rtake size =
      (((recency calls).rtake size).filter (· ≠ source) ++ [source]).rtake size := by
  simp only [recency]
  rw [rtake_filter_rtake (List.nodup_dedup (returned calls)),
    returned_append (Call.source?_returned source)]
  exact congrArg (List.rtake · size) (dedup_append_singleton _ _)

/-- After a hit the cache follows its history, in which the source was returned once more. -/
theorem Follows.hit (h : Follows size calls c) (hfind : c.find? source = some o) :
    Follows size (calls ++ [.returned source]) (c.hit source o) where
  maxSize := h.maxSize
  sources := by
    have hmem : source ∈ (recency calls).rtake size := by
      rw [← h.sources]
      exact Cache.exists_find?_iff.1 ⟨o, hfind⟩
    -- The source leaves its place, so there is room for it at the end.
    have hroom : (((recency calls).rtake size).filter (· ≠ source)).length < size := by
      refine lt_of_lt_of_le ?_ (length_rtake_le (recency calls) size)
      exact List.length_filter_lt_length_iff_exists.2 ⟨source, hmem, by simp⟩
    rw [rtake_recency_returned, rtake_of_length_le (by simpa [Nat.succ_le_iff] using hroom),
      ← h.sources]
    exact map_fst_renewed c.entries source o
  hits := by
    rw [hits_append (Call.source?_returned source), if_pos (h.exists_find?_iff.1 ⟨o, hfind⟩), ← h.hits]
    rfl
  misses := by
    rw [misses_append (Call.source?_returned source), if_pos (h.exists_find?_iff.1 ⟨o, hfind⟩),
      ← h.misses]
    rfl

theorem Follows.failed (h : Follows size calls c) (hfind : c.find? source = none) :
    Follows size (calls ++ [.failed source]) c.miss where
  maxSize := h.maxSize
  sources := by
    rw [recency, returned_append (Call.source?_failed source)]
    exact (List.append_nil (returned calls)).symm ▸ h.sources
  hits := by
    rw [hits_append (Call.source?_failed source), if_neg (h.not_recent hfind), ← h.hits]
    rfl
  misses := by
    rw [misses_append (Call.source?_failed source), if_neg (h.not_recent hfind), ← h.misses]
    rfl

/-- After an insertion the cache follows its history, in which the source was returned. -/
theorem Follows.insert {c' : Cache Code} (h : Follows size calls c) (hfind : c.find? source = none)
    (hc : c.miss.insert? source o = some c') : Follows size (calls ++ [.returned source]) c' := by
  have hsize : c.miss.maxSize = size := h.maxSize
  rw [insert?_of_natCast hsize] at hc
  obtain rfl := Option.some.inj hc
  refine ⟨hsize, ?_, ?_, ?_⟩
  · rw [rtake_recency_returned, ← h.sources]
    exact (map_fst_trimmed size _).trans (congrArg (List.rtake · size) (map_fst_renewed _ _ _))
  · rw [hits_append (Call.source?_returned source), if_neg (h.not_recent hfind), ← h.hits]
    rfl
  · rw [misses_append (Call.source?_returned source), if_neg (h.not_recent hfind), ← h.misses]
    rfl

/-- **A request keeps a cache as its history says.** -/
theorem Follows.request (h : Follows size calls c) (engine : Engine Code) (s : Session Code)
    (source : Source) :
    Follows size (calls ++ [.ofRequest source (s.request engine c source).1])
      (s.request engine c source).2.1 := by
  unfold Session.request
  cases hfind : c.find? source with
  | some o => exact h.hit hfind
  | none =>
    rcases s.compile engine source with ⟨e | o, s'⟩
    · exact h.failed hfind
    · cases hc : c.miss.insert? source o with
      | some c' =>
        simp only [hc]
        exact h.insert hfind hc
      | none =>
        have hneg : c.miss.maxSize < 0 := insert?_eq_none_iff.1 hc
        have hsize : c.miss.maxSize = size := h.maxSize
        omega

/-- A request that finds nothing counts a miss, whatever comes of it. -/
theorem misses_request (hfind : c.find? source = none) (engine : Engine Code) (s : Session Code) :
    (s.request engine c source).2.1.misses = c.misses + 1 := by
  unfold Session.request
  rw [hfind]
  rcases s.compile engine source with ⟨e | o, s'⟩
  · rfl
  · cases hc : c.miss.insert? source o with
    | some c' =>
      simp only [hc]
      exact misses_of_insert? hc
    | none =>
      simp only [hc]
      rfl

/-- A request is served from the cache exactly if the source is recent. -/
theorem Follows.request_eq_hit_iff (h : Follows size calls c) (engine : Engine Code)
    (s : Session Code) :
    (∃ o, s.request engine c source = (.ok o, c.hit source o, s)) ↔
      Recent size (returned calls) source := by
  rw [← h.exists_find?_iff]
  constructor
  · rintro ⟨o, ho⟩
    cases hfind : c.find? source with
    | some o' => exact ⟨o', rfl⟩
    | none =>
      have hmisses := misses_request hfind engine s
      rw [ho] at hmisses
      exact absurd hmisses (Nat.ne_add_one c.misses)
  · rintro ⟨o, ho⟩
    exact ⟨o, by rw [Session.request, ho]⟩

end Cache

end RuleRegex
