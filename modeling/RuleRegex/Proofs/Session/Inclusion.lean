import RuleRegex.Proofs.Session.Configuration

/-!
# Caches of different sizes

Two caches of different sizes that are asked for the same sources have the same history, as long as each
source compiles at every request or at none: what a cache holds decides whether a source is compiled, but
not whether a regex is returned. So the larger cache holds all that the smaller one does, and hits at least
as often.

## Main definitions

* `Session.Compiles` — a source compiles under the configuration in force.
* `Session.Steady` — whenever a run requests a source, it compiles or not as foretold.
* `Step.foretold` — the calls of the own cache in a step, if they come out as foretold.
-/

namespace RuleRegex

/-- A step sets the configuration or changes what it would be read from. -/
def Step.changesConfiguration : Step → Bool
  | .setVariable _ _ | .unsetVariable _ | .setConfig _ => true
  | _ => false

/-- The calls of the own cache in a step, where it is foretold which sources compile. -/
def Step.foretold (compiles : Source → Bool) : Step → List Call
  | .get k => [if compiles k then .returned k else .failed k]
  | .clear => [.cleared]
  | _ => []

theorem Cache.Follows.returned_mem {Code : Type} {size : Nat} {calls : List Call} {c : Cache Code}
    {k : Source} (h : Follows size calls c) (hk : k ∈ c.sources) : Call.returned k ∈ calls := by
  rw [h.sources] at hk
  have hreturned : k ∈ History.returned calls := List.mem_dedup.1 (List.mem_of_mem_drop hk)
  obtain ⟨call, hcall, hsource⟩ := List.mem_filterMap.1 hreturned
  have hmem : call ∈ calls := (List.rtakeWhile_suffix _ calls).subset hcall
  cases call with
  | returned source => cases hsource; exact hmem
  | failed | cleared => cases hsource

namespace Session

open Cache History

variable {Code : Type} {engine : Engine Code} {s : Session Code} {slot : Slot} {k : Source}
  {c : Cache Code} {size : Nat} {calls : List Call} {compiles : Source → Bool} {step : Step}
  {steps : List Step} {p : Answer Code × Session Code}

def Compiles (engine : Engine Code) (s : Session Code) (k : Source) : Prop :=
  ∃ c r, s.inForce = .ok c ∧ Regex.compile engine c k = .ok r

/-- Whenever a run requests a source of the own cache, it compiles or not as foretold. -/
def Steady (engine : Engine Code) (compiles : Source → Bool) (s : Session Code) (steps : List Step) :
    Prop :=
  ∀ i k, steps[i]? = some (.get k) → ((stage engine s steps i).Compiles engine k ↔ compiles k = true)

/-! ## Histories that are foretold -/

/-- A request returns a regex exactly if its source is held or compiles. -/
theorem Requested.exists_object_iff (h : Requested engine s slot k p) (hc : s.cache? slot = some c)
    (hsize : 0 ≤ c.maxSize) : (∃ o, p.1 = .object o) ↔ k ∈ c.sources ∨ s.Compiles engine k := by
  cases h with
  | hit hcache hfind =>
    obtain rfl := Option.some.inj (hc.symm.trans hcache)
    exact iff_of_true ⟨_, rfl⟩ (.inl (exists_find?_iff.1 ⟨_, hfind⟩))
  | absent hslot hnone =>
    subst hslot
    cases hnone.symm.trans hc
  | unread hmiss hforce =>
    refine iff_of_false nofun (not_or.2 ⟨(consults_request_iff hc).1 hmiss, ?_⟩)
    rintro ⟨c', r, hforce', -⟩
    cases hforce.symm.trans hforce'
  | rejected hmiss hforce _ hcompile =>
    refine iff_of_false nofun (not_or.2 ⟨(consults_request_iff hc).1 hmiss, ?_⟩)
    rintro ⟨c', r, hforce', hcompile'⟩
    obtain rfl := Except.ok.inj (hforce.symm.trans hforce')
    cases hcompile.symm.trans hcompile'
  | emptied _ _ hasked _ hinsert =>
    rw [asked_of_cache? hc] at hasked
    have hneg := insert?_miss_eq_none_iff.1 hinsert
    rw [← Option.some.inj hasked] at hneg
    omega
  | built _ hforce _ hcompile => exact iff_of_true ⟨_, rfl⟩ (.inr ⟨_, _, hforce, hcompile⟩)

theorem ownCalls_get_object {a : Answer Code} (h : ∃ o, a = .object o) :
    ownCalls (.get k) a = [.returned k] := by
  obtain ⟨o, rfl⟩ := h
  rfl

theorem ownCalls_get_failed {a : Answer Code} (h : ¬∃ o, a = .object o) :
    ownCalls (.get k) a = [.failed k] := by
  cases a with
  | object o => exact absurd ⟨o, rfl⟩ h
  | nothing | config | failed => rfl

/-- A step calls the own cache as foretold: what it holds compiled when it was returned. -/
theorem ownCalls_eq_foretold (engine : Engine Code) (hs : s.ownCache = some c)
    (h : Follows size calls c) (hcalls : ∀ k, Call.returned k ∈ calls → compiles k = true)
    (hstep : ∀ k, step = .get k → (s.Compiles engine k ↔ compiles k = true)) :
    ownCalls step (s.step engine step).1 = step.foretold compiles := by
  cases step with
  | get k =>
    have hsize : 0 ≤ c.maxSize := by rw [h.maxSize]; omega
    have hobject : (∃ o, (s.step engine (.get k)).1 = .object o) ↔ k ∈ c.sources ∨ s.Compiles engine k :=
      (requested engine s .own k).exists_object_iff hs hsize
    rw [hstep k rfl] at hobject
    by_cases hk : compiles k = true
    · rw [ownCalls_get_object (hobject.2 (.inr hk)), Step.foretold, if_pos hk]
    · have hheld : k ∉ c.sources := fun hmem => hk (hcalls k (h.returned_mem hmem))
      rw [ownCalls_get_failed (mt hobject.1 (not_or.2 ⟨hheld, hk⟩)), Step.foretold, if_neg hk]
  | setVariable | unsetVariable | setConfig | getConfig | compileCached | clearProcessCache | newCache
    | clear => rfl

theorem returned_of_mem_foretold (hmem : Call.returned k ∈ step.foretold compiles) :
    compiles k = true := by
  cases step with
  | get k' =>
    have hcall := List.mem_singleton.1 hmem
    split at hcall
    · next hk' => cases hcall; exact hk'
    · cases hcall
  | clear => cases List.mem_singleton.1 hmem
  | setVariable | unsetVariable | setConfig | getConfig | compileCached | clearProcessCache
    | newCache => cases hmem

theorem Steady.head (h : Steady engine compiles s (step :: steps)) :
    ∀ k, step = .get k → (s.Compiles engine k ↔ compiles k = true) := by
  rintro k rfl
  exact h 0 k rfl

theorem Steady.tail (h : Steady engine compiles s (step :: steps)) :
    Steady engine compiles (s.step engine step).2 steps := by
  intro i k hk
  rw [← stage_cons_succ]
  exact h (i + 1) k hk

/-- **Whatever the size of the own cache is, its history is as foretold.** -/
theorem ownHistory_eq_foretold (engine : Engine Code) (hs : s.ownCache = some c)
    (h : Follows size calls c) (hcalls : ∀ k, Call.returned k ∈ calls → compiles k = true)
    (hsteps : ∀ maxSize, Step.newCache maxSize ∉ steps) (hsteady : Steady engine compiles s steps) :
    ownHistory engine s steps = steps.flatMap (Step.foretold compiles) := by
  induction steps generalizing s c calls with
  | nil => rfl
  | cons step steps ih =>
    have hne : ∀ maxSize, step ≠ .newCache maxSize := by
      rintro maxSize rfl
      exact hsteps maxSize List.mem_cons_self
    have hnow := ownCalls_eq_foretold engine hs h hcalls hsteady.head
    obtain ⟨c', hs', h'⟩ := exists_follows_step engine hs h step hne
    rw [hnow] at h'
    rw [ownHistory_cons, List.flatMap_cons, hnow]
    congr 1
    refine ih hs' h' (fun k hmem => ?_) (fun maxSize hmem => ?_) hsteady.tail
    · rcases List.mem_append.1 hmem with hmem | hmem
      · exact hcalls k hmem
      · exact returned_of_mem_foretold hmem
    · exact hsteps maxSize (List.mem_cons_of_mem step hmem)

/-! ## Configurations that do not change -/

theorem Requested.environment (h : Requested engine s slot k p) :
    p.2.environment = s.environment := by
  cases h with
  | absent => rfl
  | hit | unread | rejected | emptied | built => simp

theorem environment_step (engine : Engine Code) (hstep : step.changesConfiguration = false) :
    (s.step engine step).2.environment = s.environment := by
  cases step with
  | setVariable | unsetVariable | setConfig => cases hstep
  | compileCached k => exact (requested engine s .process k).environment
  | get k => exact (requested engine s .own k).environment
  | getConfig =>
    rw [Session.step, configured_eq]
    cases s.inForce <;> rfl
  | clearProcessCache | newCache | clear => rfl

/-- Reading the configuration does not change which one is in force. -/
theorem inForce_step (engine : Engine Code) (hstep : step.changesConfiguration = false) :
    (s.step engine step).2.inForce = s.inForce := by
  have henvironment := environment_step (s := s) engine hstep
  have hset : ∀ config, step ≠ .setConfig config := by
    rintro config rfl
    cases hstep
  cases hconfig : s.config with
  | some config =>
    rw [inForce_of_config hconfig, inForce_of_config (step_config_of_some engine hconfig hset)]
  | none =>
    by_cases hx : s.Consults step
    · rcases step_of_consults engine hx with ⟨config, hforce, hstored, -⟩ | ⟨f, -, -, hkept, -⟩
      · rw [inForce_of_config hstored, hforce]
      · rw [inForce_of_unset (hkept.trans hconfig), henvironment, inForce_of_unset hconfig]
    · have hkept := (step_of_not_consults engine hx hset).1
      rw [inForce_of_unset (hkept.trans hconfig), henvironment, inForce_of_unset hconfig]

/-- The configuration in force stays the same while no step changes it. -/
theorem inForce_after (engine : Engine Code)
    (hsteps : ∀ step ∈ steps, step.changesConfiguration = false) :
    (after engine s steps).inForce = s.inForce := by
  induction steps generalizing s with
  | nil => rfl
  | cons step steps ih =>
    rw [List.forall_mem_cons] at hsteps
    rw [after_cons, ih hsteps.2, inForce_step engine hsteps.1]

/-- While the configuration does not change, a source compiles always or never. -/
theorem exists_steady (engine : Engine Code) (s : Session Code) (size size' : Int)
    (hsteps : ∀ step ∈ steps, step.changesConfiguration = false) :
    ∃ compiles, ∀ m ∈ [size, size'], Steady engine compiles s (.newCache m :: steps) := by
  classical
  refine ⟨fun k => decide (s.Compiles engine k), fun m _ i k _ => ?_⟩
  have hall : ∀ step ∈ Step.newCache m :: steps, step.changesConfiguration = false :=
    List.forall_mem_cons.2 ⟨rfl, hsteps⟩
  have hforce : (stage engine s (.newCache m :: steps) i).inForce = s.inForce :=
    inForce_after engine fun step hmem => hall step (List.mem_of_mem_take hmem)
  rw [Compiles, hforce, decide_eq_true_eq, Compiles]

/-! ## Inclusion -/

theorem Steady.take (h : Steady engine compiles s steps) (n : Nat) :
    Steady engine compiles s (steps.take n) := by
  intro i k hk
  rw [List.getElem?_take] at hk
  split at hk
  · next hi =>
    rw [stage, List.take_take, Nat.min_eq_left hi.le]
    exact h i k hk
  · cases hk

/-- A new cache is as the foretold history says. -/
theorem exists_follows_foretold (engine : Engine Code) (s : Session Code)
    (hsteps : ∀ maxSize, Step.newCache maxSize ∉ steps)
    (hsteady : Steady engine compiles s (.newCache size :: steps)) :
    ∃ c, (after engine s (.newCache size :: steps)).ownCache = some c ∧
      Follows size (steps.flatMap (Step.foretold compiles)) c := by
  have hmade : (s.step engine (.newCache size)).2.ownCache = some { maxSize := size } := rfl
  have hnew : Follows size [] ({ maxSize := size } : Cache Code) := follows_new size
  have hforetold := ownHistory_eq_foretold engine hmade hnew (by simp) hsteps hsteady.tail
  obtain ⟨c, hc, h⟩ := exists_follows_after engine hmade hnew steps hsteps
  rw [List.nil_append, hforetold] at h
  rw [after_cons]
  exact ⟨c, hc, h⟩

/-- **A larger cache is never worse.** Two caches are asked for the same sources and cleared at the same
times, and the configuration does not change or at least each source compiles always or never. Then at
every time the smaller one holds the sources that the larger one used last, the larger one has had at
least as many hits, and both have had as many requests. -/
theorem larger_cache_never_worse (engine : Engine Code) (s : Session Code) {size size' : Nat}
    (hsize : size ≤ size') (steps : List Step) (hsteps : ∀ maxSize, Step.newCache maxSize ∉ steps)
    (hsame : (∀ step ∈ steps, step.changesConfiguration = false) ∨
      ∃ compiles, ∀ m ∈ [(size : Int), (size' : Int)], Steady engine compiles s (.newCache m :: steps))
    (n : Nat) :
    ∃ c c', (after engine s (.newCache size :: steps.take n)).ownCache = some c ∧
      (after engine s (.newCache size' :: steps.take n)).ownCache = some c' ∧
      c.sources <:+ c'.sources ∧ c.hits ≤ c'.hits ∧ c.hits + c.misses = c'.hits + c'.misses := by
  obtain ⟨compiles, hsteady⟩ := hsame.elim (exists_steady engine s size size') id
  have htake : ∀ maxSize, Step.newCache maxSize ∉ steps.take n := by
    intro maxSize hmem
    exact hsteps maxSize (List.mem_of_mem_take hmem)
  have hsmall : Steady engine compiles s (.newCache size :: steps.take n) :=
    (hsteady size (by simp)).take (n + 1)
  have hlarge : Steady engine compiles s (.newCache size' :: steps.take n) :=
    (hsteady size' (by simp)).take (n + 1)
  obtain ⟨c, hc, h⟩ := exists_follows_foretold engine s htake hsmall
  obtain ⟨c', hc', h'⟩ := exists_follows_foretold engine s htake hlarge
  refine ⟨c, c', hc, hc', ?_, ?_, ?_⟩
  · rw [h.sources, h'.sources]
    exact rtake_suffix_rtake hsize _
  · rw [h.hits, h'.hits]
    exact hits_le_hits hsize _
  · rw [h.hits, h.misses, h'.hits, h'.misses, hits_add_misses, hits_add_misses]

/-- A cache of size two finds a source again that a cache of size one has dropped. -/
theorem larger_cache_finds_again :
    let a : Source := ⟨[0x61], true⟩
    let b : Source := ⟨[0x62], true⟩
    let steps : List Step := [.get a, .get b, .get ⟨[], false⟩, .get a]
    let s : Session Unit := { config := some {} }
    1 ≤ 2 ∧ (∀ maxSize, Step.newCache maxSize ∉ steps) ∧
    (∀ step ∈ steps, step.changesConfiguration = false) ∧
    ∃ c c', (after pickyEngine s (.newCache (1 : Nat) :: steps)).ownCache = some c ∧
      (after pickyEngine s (.newCache (2 : Nat) :: steps)).ownCache = some c' ∧
      c.sources = [a] ∧ c'.sources = [b, a] ∧ c.sources <:+ c'.sources ∧
      c.hits = 0 ∧ c'.hits = 1 ∧ c.hits + c.misses = c'.hits + c'.misses := by
  intro a b steps s
  have hsteps : ∀ maxSize, Step.newCache maxSize ∉ steps := by
    intro maxSize
    simp [steps]
  have hsame : ∀ step ∈ steps, step.changesConfiguration = false := by
    simp [steps, Step.changesConfiguration]
  have hsize : 1 ≤ 2 := by decide
  obtain ⟨c, c', hc, hc', hsuffix, -, hcount⟩ :=
    larger_cache_never_worse pickyEngine s hsize steps hsteps (.inl hsame) 4
  obtain rfl := Option.some.inj hc
  obtain rfl := Option.some.inj hc'
  exact ⟨hsize, hsteps, hsame, _, _, rfl, rfl, rfl, rfl, hsuffix, rfl, rfl, hcount⟩

end Session

end RuleRegex
