import RuleRegex.Proofs.Config.Accepted
import RuleRegex.Proofs.Session.Configuration
import RuleRegex.Proofs.Session.Failure

/-!
# The process cache of a configuration

A process cache is made by the first request of it, with the size that the configuration in force gives
it, and stays until it is dropped. If the configuration could be read from an environment, there is always
room in the cache, whatever is set afterwards.

## Main definitions

* `Session.HasProcessCache` — there is a process cache of a size, and its entries fit.
-/

namespace RuleRegex

namespace Session

variable {Code : Type} {engine : Engine Code} {s : Session Code} {source : Source}
  {cache : Cache Code} {c : Config} {step : Step} {steps : List Step} {size : Int}

/-- There is a process cache of a size, and its entries fit. -/
structure HasProcessCache (s : Session Code) (size : Int) : Prop where
  fits : s.Fits .process
  sized : ∃ cache, s.processCache = some cache ∧ cache.maxSize = size

/-! ## Steps -/

/-- A request leaves a process cache behind, if one can be made. -/
theorem Requested.exists_processCache {p : Answer Code × Session Code}
    (h : Requested engine s .process source p)
    (hforce : s.processCache = none → ∃ c, s.inForce = .ok c) :
    ∃ cache, p.2.processCache = some cache := by
  cases h with
  | hit | rejected | emptied | built => exact ⟨_, rfl⟩
  | absent hslot => cases hslot
  | unread _ hfailed =>
    unfold missed
    split
    · exact ⟨_, rfl⟩
    · next hnone =>
      obtain ⟨c, hc⟩ := hforce hnone
      cases hc.symm.trans hfailed

/-- Only dropping it leaves no process cache. -/
theorem exists_processCache_step (engine : Engine Code) (hcache : s.processCache = some cache)
    (hstep : step ≠ .clearProcessCache) :
    ∃ cache', (s.step engine step).2.processCache = some cache' := by
  cases step with
  | clearProcessCache => exact absurd rfl hstep
  | compileCached source =>
    refine (requested engine s .process source).exists_processCache fun hnone => ?_
    cases hnone.symm.trans hcache
  | get source =>
    have hne : Slot.process ≠ Slot.own := nofun
    exact ⟨cache, ((requested engine s .own source).cache?_of_ne hne).trans hcache⟩
  | getConfig =>
    rw [Session.step, configured_eq]
    cases s.inForce <;> exact ⟨cache, hcache⟩
  | setVariable | unsetVariable | setConfig | newCache | clear => exact ⟨cache, hcache⟩

/-- The first request makes the process cache. -/
theorem hasProcessCache_of_request (engine : Engine Code) (source : Source)
    (hnone : s.processCache = none) (hforce : s.inForce = .ok c) :
    (s.step engine (.compileCached source)).2.HasProcessCache c.cacheSize := by
  have hfits : s.Fits .process := fits_of_cache?_eq_none hnone
  obtain ⟨cache, hcache⟩ :=
    (requested engine s .process source).exists_processCache fun _ => ⟨c, hforce⟩
  refine ⟨fits_step engine hfits _, cache, hcache, ?_⟩
  rcases processCache_step hcache with ⟨cache', hsome, -⟩ | ⟨-, -, c', -, hforce', hsize⟩
  · cases hnone.symm.trans hsome
  · rwa [Except.ok.inj (hforce.symm.trans hforce')]

/-- Every step but clearing it keeps the process cache. -/
theorem HasProcessCache.after_step (engine : Engine Code) (h : s.HasProcessCache size)
    (hstep : step ≠ .clearProcessCache) : (s.step engine step).2.HasProcessCache size := by
  obtain ⟨hfits, cache, hcache, rfl⟩ := h
  obtain ⟨cache', hcache'⟩ := exists_processCache_step engine hcache hstep
  refine ⟨fits_step engine hfits step, cache', hcache', ?_⟩
  rcases processCache_step hcache' with ⟨cache'', hsome, hsize⟩ | ⟨hnone, -⟩
  · rwa [Option.some.inj (hcache.symm.trans hsome)]
  · cases hnone.symm.trans hcache

/-- **A process cache keeps its size until it is dropped.** -/
theorem HasProcessCache.after_steps (engine : Engine Code) (h : s.HasProcessCache size)
    (hsteps : Step.clearProcessCache ∉ steps) : (after engine s steps).HasProcessCache size := by
  induction steps generalizing s with
  | nil => exact h
  | cons step steps ih =>
    obtain ⟨hstep, hrest⟩ := not_or.1 (mt List.mem_cons.2 hsteps)
    rw [after_cons]
    exact ih (h.after_step engine (Ne.symm hstep)) hrest

/-- A request fails for want of room only if the cache that it asks is of negative size. -/
theorem step_ne_cacheEmptied (engine : Engine Code) (hfits : s.Fits .process)
    (hsize : ∀ c cache, s.inForce = .ok c → s.asked c .process = some cache → 0 ≤ cache.maxSize)
    (source : Source) : (s.step engine (.compileCached source)).1 ≠ .failed .cacheEmptied := by
  intro hfailed
  have hrequest := requested engine s .process source
  obtain ⟨c, cache, r, hforce, hasked, hneg, -⟩ := (hrequest.failed_cacheEmptied_iff hfits).1 hfailed
  have hroom := hsize c cache hforce hasked
  omega

/-- A process cache whose size is not negative is never emptied of all entries. -/
theorem HasProcessCache.step_ne_cacheEmptied (engine : Engine Code) (h : s.HasProcessCache size)
    (hsize : 0 ≤ size) (source : Source) :
    (s.step engine (.compileCached source)).1 ≠ .failed .cacheEmptied := by
  obtain ⟨hfits, cache, hcache, rfl⟩ := h
  refine Session.step_ne_cacheEmptied engine hfits (fun c cache' _ hasked => ?_) source
  have hsame : s.asked c .process = some cache := asked_of_cache? hcache
  rwa [← Option.some.inj (hsame.symm.trans hasked)]

theorem HasProcessCache.exists_length_le (h : s.HasProcessCache size) (hsize : 0 ≤ size) :
    ∃ cache, s.processCache = some cache ∧ cache.maxSize = size ∧
      (cache.entries.length : Int) ≤ size := by
  obtain ⟨hfits, cache, hcache, rfl⟩ := h
  exact ⟨cache, hcache, rfl, (hfits cache hcache).length_le hsize⟩

/-! ## Runs -/

/-- From the first request on there is a process cache of the size that was in force then. -/
theorem hasProcessCache_stage (engine : Engine Code) (first : Source) (hnone : s.processCache = none)
    (hforce : s.inForce = .ok c) (hsteps : Step.clearProcessCache ∉ steps) (n : Nat) :
    (stage engine s (.compileCached first :: steps) (n + 1)).HasProcessCache c.cacheSize := by
  rw [stage_cons_succ]
  have hmade := hasProcessCache_of_request engine first hnone hforce
  exact hmade.after_steps engine fun hmem => hsteps (List.mem_of_mem_take hmem)

/-- **Settings that could be read from an environment are accepted everywhere.** Their limits are within
what the engine takes, so where the library loads every source compiles or is rejected, and it is rejected
exactly if the engine rejects its converted pattern. And from the request that makes a process cache under
them until the cache is dropped, no request of it fails for want of room, and it never has more entries
than they say. -/
theorem environment_settings_accepted (engine : Engine Code) {env : Environment} {c : Config}
    (hc : Config.ofEnvironment env = .ok c) :
    c.Accepted ∧
    (engine.loads c.libraryPath = true → ∀ source : Source,
      ((∃ r, Regex.compile engine c source = .ok r) ∨
        ∃ e, Regex.compile engine c source = .error (.rejected e)) ∧
      ((∃ e, Regex.compile engine c source = .error (.rejected e)) ↔ ∃ code position,
        engine.compile (convert source.pattern) (!source.caseSensitive) = .error (code, position))) ∧
    ∀ (s : Session Code) (first : Source) (steps : List Step), s.processCache = none →
      s.inForce = .ok c → Step.clearProcessCache ∉ steps →
      let made : List Step := .compileCached first :: steps
      (∀ (i : Nat) (k : Source), made[i]? = some (.compileCached k) →
        ((run engine s made)[i]?).map Prod.fst ≠ some (.failed .cacheEmptied)) ∧
      ∀ n, ∃ cache, (stage engine s made (n + 1)).processCache = some cache ∧
        cache.maxSize = c.cacheSize ∧ (cache.entries.length : Int) ≤ c.cacheSize := by
  have haccepted := Config.accepted_of_ofEnvironment hc
  have hpos : 0 ≤ c.cacheSize := Int.le_trans (by decide) haccepted.cacheSize
  refine ⟨haccepted, fun hloads source => ?_, fun s first steps hnone hforce hsteps => ⟨?_, fun n => ?_⟩⟩
  · rcases Regex.compile_of_accepted haccepted hloads source with
      ⟨code, r, hcode, hcompile⟩ | ⟨code, position, hcode, hcompile⟩
    · simp [hcode, hcompile]
    · simp [hcode, hcompile]
  · intro i k hk
    rw [getElem?_run, hk]
    simp only [Option.map_some, ne_eq, Option.some_inj]
    cases i with
    | zero =>
      have hfits : s.Fits .process := fits_of_cache?_eq_none hnone
      refine Session.step_ne_cacheEmptied engine hfits (fun c' cache hforce' hasked => ?_) k
      obtain rfl := Except.ok.inj (hforce.symm.trans hforce')
      rw [asked, hnone] at hasked
      rwa [← Option.some.inj hasked]
    | succ i =>
      have hmade := hasProcessCache_stage engine first hnone hforce hsteps i
      exact hmade.step_ne_cacheEmptied engine hpos k
  · exact (hasProcessCache_stage engine first hnone hforce hsteps n).exists_length_le hpos

/-- The largest limit and the smallest size, with a second source that takes the place of the first. -/
theorem environment_settings_at_bounds :
    let env : Environment :=
      ⟨[("HLREGEX_MATCH_LIMIT", " +4_294_967_295"), ("HLREGEX_CACHE_SIZE", "1")]⟩
    let c : Config := { matchLimit := some 4294967295, cacheSize := 1 }
    let steps : List Step := [.compileCached ⟨[0x61], true⟩, .compileCached ⟨[0x62], true⟩]
    Config.ofEnvironment env = .ok c ∧ c.Accepted ∧
    (∃ r, Regex.compile pickyEngine c ⟨[0x61], true⟩ = .ok r) ∧
    ∃ cache, (stage pickyEngine { environment := env } steps 2).processCache = some cache ∧
      cache.maxSize = 1 ∧ (cache.entries.length : Int) ≤ 1 := by
  intro env c steps
  have hc : Config.ofEnvironment env = .ok c := by decide +kernel
  obtain ⟨haccepted, hcompile, hrun⟩ := environment_settings_accepted pickyEngine hc
  have hrejected : ¬∃ e, Regex.compile pickyEngine c ⟨[0x61], true⟩ = .error (.rejected e) := by
    rw [(hcompile rfl ⟨[0x61], true⟩).2]
    rintro ⟨code, position, h⟩
    cases h
  have hroom := hrun { environment := env } ⟨[0x61], true⟩ [.compileCached ⟨[0x62], true⟩] rfl hc
    (by simp)
  exact ⟨hc, haccepted, (hcompile rfl ⟨[0x61], true⟩).1.resolve_right hrejected, hroom.2 1⟩

end Session

end RuleRegex
