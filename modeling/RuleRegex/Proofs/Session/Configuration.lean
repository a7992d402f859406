import RuleRegex.Proofs.Session.Request

/-!
# The configuration of a session

The configuration of a session changes only where it is set, or where a step needs it while it is unset
and it is read from the environment. From then on the environment has no say. A process cache keeps the
size that the configuration gave it when it was made.

## Main definitions

* `Step.changesEnvironment` — a step sets or unsets a variable.
* `Session.inEnvironment` — the session in another environment.
* `Session.keptAnswers` — what a run answers, without the steps that change the environment.
-/

namespace RuleRegex

def Step.changesEnvironment : Step → Bool
  | .setVariable _ _ | .unsetVariable _ => true
  | _ => false

namespace Session

variable {Code : Type} {engine : Engine Code} {s : Session Code} {slot : Slot} {source : Source}
  {cache : Cache Code} {o : Object Code} {c : Config} {f : Config.Fault} {step : Step}
  {p : Answer Code × Session Code}

/-! ## Steps that need the configuration -/

/-- A request that is answered from a cache consults no configuration. -/
theorem not_consults_of_find? (hcache : s.cache? slot = some cache)
    (hfind : cache.find? source = some o) : ¬s.Consults (slot.request source) := by
  rw [consults_request_iff hcache, not_not]
  exact Cache.exists_find?_iff.1 ⟨o, hfind⟩

theorem not_consults_of_absent (hcache : s.ownCache = none) : ¬s.Consults (.get source) := by
  rintro ⟨cache, hsome, -⟩
  rw [hcache] at hsome
  cases hsome

/-- A request that needs no configuration stores none and has nothing to say of the environment. -/
theorem Requested.of_not_consults (h : Requested engine s slot source p)
    (hx : ¬s.Consults (slot.request source)) :
    p.2.config = s.config ∧ ∀ f, p.1 ≠ .failed (.environment f) := by
  cases h with
  | hit => exact ⟨withCache_config, by simp⟩
  | absent => exact ⟨rfl, by simp⟩
  | unread hmiss | rejected hmiss | emptied hmiss | built hmiss => exact absurd hmiss hx

theorem missed_processCache (hnone : s.processCache = none) :
    (s.missed slot).processCache = none := by
  cases slot with
  | process =>
    have hcache : s.cache? .process = none := hnone
    rwa [missed, hcache]
  | own =>
    unfold missed
    split <;> exact hnone

/-- A request that needs the configuration stores the one in force. If there is none, it fails for what
is wrong with the environment, and it stores no configuration and makes no process cache. -/
theorem Requested.of_consults (h : Requested engine s slot source p)
    (hx : s.Consults (slot.request source)) :
    (∃ c, s.inForce = .ok c ∧ p.2.config = some c ∧ ∀ f, p.1 ≠ .failed (.environment f)) ∨
    ∃ f, s.inForce = .error f ∧ p.1 = .failed (.environment f) ∧ p.2.config = s.config ∧
      (s.processCache = none → p.2.processCache = none) := by
  cases h with
  | hit hcache hfind => exact absurd hx (not_consults_of_find? hcache hfind)
  | absent hslot hcache =>
    subst hslot
    exact absurd hx (not_consults_of_absent hcache)
  | unread _ hforce => exact .inr ⟨_, hforce, rfl, missed_config, missed_processCache⟩
  | rejected _ hforce | emptied _ hforce | built _ hforce =>
    exact .inl ⟨_, hforce, withCache_config.trans (settled_config hforce), by simp⟩

/-- A step that does not consult the configuration leaves it alone, and no fault of the environment is
answered. -/
theorem step_of_not_consults (engine : Engine Code) (hx : ¬s.Consults step)
    (hset : ∀ config, step ≠ .setConfig config) :
    (s.step engine step).2.config = s.config ∧
      ∀ f, (s.step engine step).1 ≠ .failed (.environment f) := by
  cases step with
  | setConfig config => exact absurd rfl (hset config)
  | getConfig => exact absurd trivial hx
  | compileCached source => exact (requested engine s .process source).of_not_consults hx
  | get source => exact (requested engine s .own source).of_not_consults hx
  | setVariable | unsetVariable | clearProcessCache | newCache | clear =>
    exact ⟨rfl, by simp [Session.step]⟩

/-- A step that consults the configuration stores the one in force, or answers with the fault of the
environment and stores nothing. -/
theorem step_of_consults (engine : Engine Code) (hx : s.Consults step) :
    (∃ c, s.inForce = .ok c ∧ (s.step engine step).2.config = some c ∧
      ∀ f, (s.step engine step).1 ≠ .failed (.environment f)) ∨
    ∃ f, s.inForce = .error f ∧ (s.step engine step).1 = .failed (.environment f) ∧
      (s.step engine step).2.config = s.config ∧
      (s.processCache = none → (s.step engine step).2.processCache = none) := by
  cases step with
  | getConfig =>
    rw [Session.step, configured_eq]
    cases hforce : s.inForce with
    | ok c => exact .inl ⟨c, rfl, settled_config hforce, by simp⟩
    | error f =>
      rw [settled_of_error hforce]
      exact .inr ⟨f, rfl, rfl, rfl, id⟩
  | compileCached source => exact (requested engine s .process source).of_consults hx
  | get source => exact (requested engine s .own source).of_consults hx
  | setVariable | unsetVariable | setConfig | clearProcessCache | newCache | clear => exact hx.elim

/-- A step that is not told a configuration keeps the one there is. -/
theorem step_config_of_some (engine : Engine Code) (hc : s.config = some c)
    (hset : ∀ config, step ≠ .setConfig config) : (s.step engine step).2.config = some c := by
  by_cases hx : s.Consults step
  · have hforce := inForce_of_config hc
    rcases step_of_consults engine hx with ⟨c', hc', hstep, -⟩ | ⟨f, hf, -⟩
    · rwa [Except.ok.inj (hforce.symm.trans hc')]
    · cases hforce.symm.trans hf
  · exact (step_of_not_consults engine hx hset).1.trans hc

/-- Where the configuration is unset and needed, it becomes that of the environment, if it can be
read. -/
theorem step_config_of_unset (engine : Engine Code) (hc : s.config = none) (hx : s.Consults step) :
    (s.step engine step).2.config = (Config.ofEnvironment s.environment).toOption := by
  rw [← inForce_of_unset hc]
  rcases step_of_consults engine hx with ⟨c, hforce, hstep, -⟩ | ⟨f, hforce, -, hstep, -⟩
  · rw [hstep, hforce]
    rfl
  · rw [hstep, hforce, hc]
    rfl

/-- Only a step that needs an unset configuration fails for the environment, and it fails for what is
wrong there. -/
theorem step_failed_environment_iff (engine : Engine Code) :
    (s.step engine step).1 = .failed (.environment f) ↔
      s.config = none ∧ s.Consults step ∧ Config.ofEnvironment s.environment = .error f := by
  rw [and_left_comm, ← inForce_eq_error_iff]
  constructor
  · intro h
    by_cases hx : s.Consults step
    · rcases step_of_consults engine hx with ⟨c, -, -, hne⟩ | ⟨f', hforce, hstep, -⟩
      · exact absurd h (hne f)
      · cases hstep.symm.trans h
        exact ⟨hx, hforce⟩
    · by_cases hset : ∃ config, step = .setConfig config
      · obtain ⟨config, rfl⟩ := hset
        cases h
      · exact absurd h ((step_of_not_consults engine hx fun config he => hset ⟨config, he⟩).2 f)
  · rintro ⟨hx, hforce⟩
    rcases step_of_consults engine hx with ⟨c, hc, -⟩ | ⟨f', hf', hstep, -⟩
    · cases hforce.symm.trans hc
    · rw [hstep, Except.error.inj (hforce.symm.trans hf')]

/-- A hit only moves the entry to the end of its cache and counts. -/
theorem step_of_find? (engine : Engine Code) (hcache : s.cache? slot = some cache)
    (hfind : cache.find? source = some o) :
    s.step engine (slot.request source) = (.object o, s.withCache slot (cache.hit source o)) := by
  rw [step_request engine source hcache]
  simp only [request, hfind]
  rfl

/-! ## Later environments -/

def inEnvironment (s : Session Code) (env : Environment) : Session Code :=
  { s with environment := env }

/-- What a run answers, without the steps that change the environment. -/
def keptAnswers (engine : Engine Code) (s : Session Code) (steps : List Step) :
    List (Answer Code) :=
  (steps.zip (run engine s steps)).filterMap fun p =>
    if p.1.changesEnvironment then none else some p.2.1

theorem keptAnswers_cons (engine : Engine Code) (s : Session Code) (step : Step)
    (steps : List Step) :
    keptAnswers engine s (step :: steps) =
      (if step.changesEnvironment then [] else [(s.step engine step).1]) ++
        keptAnswers engine (s.step engine step).2 steps := by
  rw [keptAnswers, run, List.zip_cons_cons, List.filterMap_cons]
  split <;> simp_all [keptAnswers]

theorem configured_of_config (hc : s.config = some c) : s.configured = (.ok c, s) := by
  rw [configured_eq, inForce_of_config hc, settled_of_config hc]

/-- With a configuration that is set, a request does not look at the environment. -/
theorem request_inEnvironment (engine : Engine Code) (hc : s.config = some c)
    (cache : Cache Code) (source : Source) (env : Environment) :
    (s.inEnvironment env).request engine cache source =
      ((s.request engine cache source).1, (s.request engine cache source).2.1,
        (s.request engine cache source).2.2.inEnvironment env) := by
  have hc' : (s.inEnvironment env).config = some c := hc
  cases hfind : cache.find? source with
  | some o => simp only [request, hfind]
  | none =>
    cases hcompile : Regex.compile engine c source with
    | error e =>
      simp only [request, hfind, compile, compileUnder, configured_of_config hc,
        configured_of_config hc', hcompile]
    | ok r =>
      have hidentity : (s.inEnvironment env).nextIdentity = s.nextIdentity := rfl
      cases hinsert : cache.miss.insert? source ⟨s.nextIdentity, r⟩ <;>
      · simp only [request, hfind, compile, compileUnder, configured_of_config hc,
          configured_of_config hc', hcompile, hidentity, hinsert]
        rfl

/-- Where a configuration is stored, a step does the same in every environment. -/
theorem step_inEnvironment (engine : Engine Code) (hc : s.config = some c) (env : Environment)
    (hstep : step.changesEnvironment = false) :
    (s.inEnvironment env).step engine step =
      ((s.step engine step).1, (s.step engine step).2.inEnvironment env) := by
  have hc' : (s.inEnvironment env).config = some c := hc
  cases step with
  | setVariable | unsetVariable => cases hstep
  | setConfig | clearProcessCache | newCache | clear => rfl
  | getConfig => simp only [Session.step, configured_of_config hc, configured_of_config hc']
  | compileCached source =>
    have hcache : (s.inEnvironment env).processCache = s.processCache := rfl
    cases h : s.processCache with
    | some cache =>
      simp only [Session.step, requestProcess, hcache, h, request_inEnvironment engine hc]
      rfl
    | none =>
      simp only [Session.step, requestProcess, hcache, h, configured_of_config hc,
        configured_of_config hc', request_inEnvironment engine hc]
      rfl
  | get source =>
    have hcache : (s.inEnvironment env).ownCache = s.ownCache := rfl
    cases h : s.ownCache with
    | some cache =>
      simp only [Session.step, requestOwn, hcache, h, request_inEnvironment engine hc]
      rfl
    | none => simp only [Session.step, requestOwn, hcache, h]

/-- A step that changes the environment does nothing else. -/
theorem step_of_changesEnvironment (engine : Engine Code) (s : Session Code) (env : Environment)
    (hstep : step.changesEnvironment = true) :
    (s.step engine step).2.inEnvironment env = s.inEnvironment env := by
  cases step with
  | setVariable | unsetVariable => rfl
  | setConfig | getConfig | compileCached | clearProcessCache | newCache | get | clear => cases hstep

/-- A configuration that is set stays set until it is unset. -/
theorem exists_config_step (engine : Engine Code) (hc : s.config = some c)
    (hstep : step ≠ .setConfig none) : ∃ c', (s.step engine step).2.config = some c' := by
  by_cases hset : ∃ config, step = .setConfig config
  · obtain ⟨config, rfl⟩ := hset
    cases config with
    | none => exact absurd rfl hstep
    | some c' => exact ⟨c', rfl⟩
  · exact ⟨c, step_config_of_some engine hc fun config he => hset ⟨config, he⟩⟩

/-- **Changes of the environment have no effect while a configuration is stored**: without them, and in
any other environment, a run answers the same and comes to the same session. -/
theorem run_inEnvironment (engine : Engine Code) (hc : s.config = some c) (steps : List Step)
    (hsteps : Step.setConfig none ∉ steps) (env : Environment) :
    let kept := steps.filter (!·.changesEnvironment)
    (run engine (s.inEnvironment env) kept).map Prod.fst = keptAnswers engine s steps ∧
      after engine (s.inEnvironment env) kept = (after engine s steps).inEnvironment env := by
  induction steps generalizing s c with
  | nil => exact ⟨rfl, rfl⟩
  | cons step steps ih =>
    obtain ⟨hne, hrest⟩ := not_or.1 (mt List.mem_cons.2 hsteps)
    obtain ⟨c', hc'⟩ := exists_config_step engine hc (Ne.symm hne)
    have h := ih hc' hrest
    rw [keptAnswers_cons, after_cons]
    cases hstep : step.changesEnvironment with
    | true =>
      rw [step_of_changesEnvironment engine s env hstep] at h
      simpa [hstep] using h
    | false =>
      have hsame := step_inEnvironment engine hc env hstep
      simpa [hstep, run, after_cons, hsame] using h

/-! ## The size of the process cache -/

/-- A size is that of the cache in a slot, or that of a process cache made under the configuration in
force. -/
def GivesSize (s : Session Code) (slot : Slot) (size : Int) : Prop :=
  (∃ cache, s.cache? slot = some cache ∧ size = cache.maxSize) ∨
    slot = .process ∧ s.processCache = none ∧ ∃ c, s.inForce = .ok c ∧ size = c.cacheSize

theorem givesSize_of_asked (hforce : s.inForce = .ok c) (hasked : s.asked c slot = some cache) :
    s.GivesSize slot cache.maxSize := by
  rcases asked_eq_some hasked with hcache | ⟨hslot, hnone, rfl⟩
  · exact .inl ⟨cache, hcache, rfl⟩
  · exact .inr ⟨hslot, hnone, c, hforce, rfl⟩

/-- A request keeps the size of its cache. -/
theorem Requested.maxSize (h : Requested engine s slot source p)
    (hp : p.2.cache? slot = some cache) : s.GivesSize slot cache.maxSize := by
  cases h with
  | hit hcache =>
    obtain rfl := Option.some.inj (cache?_withCache_self.symm.trans hp)
    exact .inl ⟨_, hcache, rfl⟩
  | absent => exact .inl ⟨cache, hp, rfl⟩
  | unread =>
    cases hcache : s.cache? slot with
    | some cache' =>
      rw [missed, hcache, cache?_withCache_self] at hp
      obtain rfl := Option.some.inj hp
      exact .inl ⟨cache', hcache, rfl⟩
    | none =>
      rw [missed, hcache] at hp
      cases hcache.symm.trans hp
  | rejected _ hforce hasked | emptied _ hforce hasked =>
    obtain rfl := Option.some.inj (cache?_withCache_self.symm.trans hp)
    have hsize := givesSize_of_asked hforce hasked
    exact hsize
  | built _ hforce hasked _ hinsert =>
    obtain rfl := Option.some.inj (cache?_withCache_self.symm.trans hp)
    have hsize := givesSize_of_asked hforce hasked
    rwa [Cache.maxSize_of_insert? hinsert]

/-- A step keeps the size of the process cache, or it is a request that made it. -/
theorem processCache_step (hp : (s.step engine step).2.processCache = some cache) :
    (∃ cache', s.processCache = some cache' ∧ cache.maxSize = cache'.maxSize) ∨
      s.processCache = none ∧ ∃ source c, step = .compileCached source ∧ s.inForce = .ok c ∧
        cache.maxSize = c.cacheSize := by
  by_cases hstep : ∃ source, step = .compileCached source
  · obtain ⟨source, rfl⟩ := hstep
    rcases (requested engine s .process source).maxSize hp with h | ⟨-, hnone, c, hforce, hsize⟩
    · exact .inl h
    · exact .inr ⟨hnone, source, c, rfl, hforce, hsize⟩
  · have hkept : (s.step engine step).2.cache? .process = s.cache? .process ∨ _ :=
      cache?_step fun source he => hstep ⟨source, he⟩
    rcases hkept with h | ⟨-, h⟩ | ⟨h, -⟩
    · exact .inl ⟨cache, h.symm.trans hp, rfl⟩
    · cases h.symm.trans hp
    · cases h

/-- There has been a process cache since a request before step `n` made it, and `size` is the cache size
of the configuration in force there. -/
def MadeWithSize (engine : Engine Code) (s : Session Code) (steps : List Step) (n : Nat)
    (size : Int) : Prop :=
  ∃ i < n, ∃ source c, steps[i]? = some (.compileCached source) ∧
    (stage engine s steps i).processCache = none ∧ (stage engine s steps i).inForce = .ok c ∧
    (∀ j, i < j → j ≤ n → (stage engine s steps j).processCache ≠ none) ∧ size = c.cacheSize

variable {steps : List Step} {n : Nat} {size : Int}

/-- The size of a process cache is kept as long as the cache is. -/
theorem MadeWithSize.succ (h : MadeWithSize engine s steps n size)
    (hlast : (stage engine s steps (n + 1)).processCache ≠ none) :
    MadeWithSize engine s steps (n + 1) size := by
  obtain ⟨i, hi, source, c, hstep, hnone, hforce, hsince, hsize⟩ := h
  refine ⟨i, by omega, source, c, hstep, hnone, hforce, fun j hij hj => ?_, hsize⟩
  rcases Nat.lt_or_eq_of_le hj with hj | rfl
  · exact hsince j hij (by omega)
  · exact hlast

/-- **The process cache has the size of the configuration in force when it was made.** -/
theorem madeWithSize_of_processCache (hs : s.processCache = none)
    (hp : (stage engine s steps n).processCache = some cache) :
    MadeWithSize engine s steps n cache.maxSize := by
  induction n generalizing cache with
  | zero => cases hs.symm.trans hp
  | succ n ih =>
    have hlast : (stage engine s steps (n + 1)).processCache ≠ none := by
      rw [hp]
      exact Option.some_ne_none cache
    cases hstep : steps[n]? with
    | none =>
      rw [stage_succ_of_none hstep] at hp
      exact (ih hp).succ hlast
    | some step =>
      rw [stage_succ hstep] at hp
      rcases processCache_step hp with ⟨cache', h, hsize⟩ | ⟨hnone, source, c, rfl, hforce, hsize⟩
      · rw [hsize]
        exact (ih h).succ hlast
      · refine ⟨n, by omega, source, c, hstep, hnone, hforce, fun j hij hj => ?_, hsize⟩
        obtain rfl : j = n + 1 := by omega
        exact hlast

/-- **A configuration is a snapshot.** It changes where it is set, or where a step needs it while it is
unset: then it is read from the environment of that moment, and what is read stays, whatever becomes of
the environment, until it is unset. A hit needs no configuration. Where it cannot be read, the step that
needs it fails for that reason, and nothing is stored or made. And a process cache has the size of the
configuration in force when it was made, in every session. -/
theorem configuration_snapshot (engine : Engine Code) :
    (∀ (s : Session Code) (config : Option Config),
      (s.step engine (.setConfig config)).2.config = config) ∧
    (∀ (s : Session Code) (step : Step), (∀ config, step ≠ .setConfig config) →
      (¬(s.config = none ∧ s.Consults step) → (s.step engine step).2.config = s.config) ∧
      (s.config = none → s.Consults step →
        (s.step engine step).2.config = (Config.ofEnvironment s.environment).toOption)) ∧
    (∀ (s : Session Code) (c : Config) (steps : List Step) (env : Environment),
      s.config = some c → Step.setConfig none ∉ steps →
      let kept := steps.filter (!·.changesEnvironment)
      (run engine (s.inEnvironment env) kept).map Prod.fst = keptAnswers engine s steps ∧
        after engine (s.inEnvironment env) kept = (after engine s steps).inEnvironment env) ∧
    (∀ (s : Session Code) (slot : Slot) (source : Source) (cache : Cache Code) (o : Object Code),
      s.cache? slot = some cache → cache.find? source = some o →
      ¬s.Consults (slot.request source) ∧
        s.step engine (slot.request source) = (.object o, s.withCache slot (cache.hit source o))) ∧
    (∀ (s : Session Code) (step : Step) (f : Config.Fault),
      ((s.step engine step).1 = .failed (.environment f) ↔
        s.config = none ∧ s.Consults step ∧ Config.ofEnvironment s.environment = .error f) ∧
      ((s.step engine step).1 = .failed (.environment f) →
        (s.step engine step).2.config = none ∧
          (s.processCache = none → (s.step engine step).2.processCache = none))) ∧
    (∀ (env : Environment) (steps : List Step) (n : Nat) (cache : Cache Code),
      (stage engine { environment := env } steps n).processCache = some cache →
      MadeWithSize engine { environment := env } steps n cache.maxSize) := by
  refine ⟨fun _ _ => rfl, fun s step hset => ⟨fun hx => ?_, step_config_of_unset engine⟩,
    fun s c steps env hc hsteps => run_inEnvironment engine hc steps hsteps env,
    fun s slot source cache o hcache hfind => ⟨not_consults_of_find? hcache hfind,
      step_of_find? engine hcache hfind⟩,
    fun s step f => ⟨step_failed_environment_iff engine, fun h => ?_⟩,
    fun env steps n cache => madeWithSize_of_processCache rfl⟩
  · by_cases hc : s.config = none
    · exact (step_of_not_consults engine (fun h => hx ⟨hc, h⟩) hset).1
    · obtain ⟨c, hc⟩ := Option.ne_none_iff_exists'.1 hc
      exact (step_config_of_some engine hc hset).trans hc.symm
  · obtain ⟨hc, hx, -⟩ := (step_failed_environment_iff engine).1 h
    rcases step_of_consults engine hx with ⟨-, -, -, hne⟩ | ⟨-, -, -, hconfig, hmade⟩
    · exact absurd h (hne f)
    · exact ⟨hconfig.trans hc, hmade⟩

/-- The first request reads the size of the process cache, and what is set later comes too late. -/
example :
    let engine : Engine Unit :=
      { loads := fun _ => true, compile := fun _ _ => .ok (), captureCount := fun _ => 0,
        run := fun _ _ _ => ⟨noMatchCode, []⟩, message := fun _ => "" }
    let steps : List Step := [.setVariable "HLREGEX_CACHE_SIZE" "1", .compileCached ⟨[0x61], true⟩,
      .setVariable "HLREGEX_CACHE_SIZE" "2", .setConfig (some { cacheSize := 3 }),
      .compileCached ⟨[0x62], true⟩]
    (after engine {} steps).processCache.map Cache.maxSize = some 1 := by
  decide +kernel

end Session

end RuleRegex
