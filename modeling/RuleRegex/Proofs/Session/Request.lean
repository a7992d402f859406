import RuleRegex.Proofs.Session.OwnCache

/-!
# Requests of a session

A request asks the process cache or the session's own cache. Six things can come of it, and what a
session does with its caches and its configuration is read off them.

## Main definitions

* `Session.inForce` — the configuration in force, or what is wrong with the environment.
* `Slot` — the place of a cache in a session.
* `Session.Consults` — a step needs the configuration.
* `Session.Requested` — what can come of a request.
* `Session.stage` — the session after the first steps of a run.
-/

namespace RuleRegex

inductive Slot where
  | process
  | own
  deriving DecidableEq, Repr

def Slot.request : Slot → Source → Step
  | process, source => .compileCached source
  | own, source => .get source

theorem Slot.request_inj {slot slot' : Slot} {k k' : Source}
    (h : slot.request k = slot'.request k') : slot = slot' ∧ k = k' := by
  cases slot <;> cases slot' <;> cases h <;> exact ⟨rfl, rfl⟩

namespace Session

variable {Code : Type} {engine : Engine Code} {s : Session Code} {slot slot' : Slot}
  {source : Source} {cache : Cache Code} {o : Object Code} {c : Config} {f : Config.Fault}

/-! ## The configuration in force -/

/-- The configuration in force, or what is wrong with the environment that it would be read from. -/
def inForce (s : Session Code) : Except Config.Fault Config :=
  match s.config with
  | some c => .ok c
  | none => Config.ofEnvironment s.environment

def settled (s : Session Code) : Session Code := { s with config := s.inForce.toOption }

@[simp] theorem settled_environment : s.settled.environment = s.environment := rfl

@[simp] theorem settled_nextIdentity : s.settled.nextIdentity = s.nextIdentity := rfl

theorem inForce_of_config (h : s.config = some c) : s.inForce = .ok c := by
  rw [inForce, h]

theorem inForce_of_unset (h : s.config = none) :
    s.inForce = Config.ofEnvironment s.environment := by
  rw [inForce, h]

theorem inForce_eq_error_iff :
    s.inForce = .error f ↔ s.config = none ∧ Config.ofEnvironment s.environment = .error f := by
  rw [inForce]
  split <;> simp [*]

theorem settled_config (h : s.inForce = .ok c) : s.settled.config = some c := by
  rw [settled, h]
  rfl

theorem settled_of_error (h : s.inForce = .error f) : s.settled = s := by
  have hconfig : none = s.config := (inForce_eq_error_iff.1 h).1.symm
  rw [settled, h]
  exact congrArg (fun config => { s with config := config }) hconfig

theorem settled_of_config (h : s.config = some c) : s.settled = s := by
  rw [settled, inForce_of_config h]
  exact congrArg (fun config => { s with config := config }) h.symm

theorem inForce_settled (h : s.inForce = .ok c) : s.settled.inForce = .ok c :=
  inForce_of_config (settled_config h)

theorem settled_settled (h : s.inForce = .ok c) : s.settled.settled = s.settled :=
  settled_of_config (settled_config h)

theorem configured_eq (s : Session Code) : s.configured = (s.inForce, s.settled) := by
  cases hconfig : s.config with
  | some c => rw [configured, hconfig, inForce_of_config hconfig, settled_of_config hconfig]
  | none =>
    rw [configured, hconfig, settled, inForce_of_unset hconfig]
    cases Config.ofEnvironment s.environment with
    | ok c => rfl
    | error f => exact congrArg (fun config => (_, { s with config := config })) hconfig

/-! ## The caches of a session -/

def cache? (s : Session Code) : Slot → Option (Cache Code)
  | .process => s.processCache
  | .own => s.ownCache

def withCache (s : Session Code) (slot : Slot) (cache : Cache Code) : Session Code :=
  match slot with
  | .process => { s with processCache := some cache }
  | .own => { s with ownCache := some cache }

/-- The session after a miss that came to nothing, which the cache counts if there is one. -/
def missed (s : Session Code) (slot : Slot) : Session Code :=
  match s.cache? slot with
  | some cache => s.withCache slot cache.miss
  | none => s

@[simp] theorem withCache_config : (s.withCache slot cache).config = s.config := by
  cases slot <;> rfl

@[simp] theorem withCache_environment :
    (s.withCache slot cache).environment = s.environment := by
  cases slot <;> rfl

@[simp] theorem withCache_nextIdentity :
    (s.withCache slot cache).nextIdentity = s.nextIdentity := by
  cases slot <;> rfl

@[simp] theorem cache?_withCache_self : (s.withCache slot cache).cache? slot = some cache := by
  cases slot <;> rfl

theorem cache?_withCache_of_ne (h : slot' ≠ slot) :
    (s.withCache slot cache).cache? slot' = s.cache? slot' := by
  cases slot <;> cases slot' <;> first | rfl | exact absurd rfl h

@[simp] theorem missed_config : (s.missed slot).config = s.config := by
  unfold missed
  split
  · exact withCache_config
  · rfl

@[simp] theorem missed_environment : (s.missed slot).environment = s.environment := by
  unfold missed
  split
  · exact withCache_environment
  · rfl

@[simp] theorem missed_nextIdentity : (s.missed slot).nextIdentity = s.nextIdentity := by
  unfold missed
  split
  · exact withCache_nextIdentity
  · rfl

/-- The cache that a request asks under a configuration; the process cache is made if there is none. -/
def asked (s : Session Code) (c : Config) : Slot → Option (Cache Code)
  | .process => some (s.processCache.getD { maxSize := c.cacheSize })
  | .own => s.ownCache

theorem asked_of_cache? (h : s.cache? slot = some cache) : s.asked c slot = some cache := by
  cases slot with
  | process =>
    have hcache : s.processCache = some cache := h
    rw [asked, hcache, Option.getD_some]
  | own => exact h

/-- A cache is asked as it stands, or it is a new process cache. -/
theorem asked_eq_some (h : s.asked c slot = some cache) :
    s.cache? slot = some cache ∨
      slot = .process ∧ s.processCache = none ∧ cache = { maxSize := c.cacheSize } := by
  cases slot with
  | own => exact .inl h
  | process =>
    obtain rfl := Option.some.inj h
    cases hcache : s.processCache with
    | some cache => exact .inl hcache
    | none => exact .inr ⟨rfl, rfl, rfl⟩

/-! ## What can come of a request -/

/-- A step needs the configuration: it asks for it, or it asks a cache that does not hold the source. -/
def Consults (s : Session Code) : Step → Prop
  | .getConfig => True
  | .compileCached source => ∀ cache, s.processCache = some cache → source ∉ cache.sources
  | .get source => ∃ cache, s.ownCache = some cache ∧ source ∉ cache.sources
  | _ => False

/-- A request of a cache consults the configuration exactly if the cache does not hold the source. -/
theorem consults_request_iff (h : s.cache? slot = some cache) :
    s.Consults (slot.request source) ↔ source ∉ cache.sources := by
  cases slot with
  | process =>
    constructor
    · intro hmiss
      exact hmiss cache h
    · intro hmem cache' h'
      rwa [← Option.some.inj (h.symm.trans h')]
  | own =>
    constructor
    · rintro ⟨cache', h', hmem⟩
      rwa [Option.some.inj (h.symm.trans h')]
    · intro hmem
      exact ⟨cache, h, hmem⟩

/-- What can come of a request of a slot for a source. -/
inductive Requested (engine : Engine Code) (s : Session Code) (slot : Slot) (source : Source) :
    Answer Code × Session Code → Prop
  | hit {cache : Cache Code} {o : Object Code} (hcache : s.cache? slot = some cache)
      (hfind : cache.find? source = some o) :
      Requested engine s slot source (.object o, s.withCache slot (cache.hit source o))
  | absent (hslot : slot = .own) (hcache : s.ownCache = none) :
      Requested engine s slot source (.failed .noCache, s)
  | unread {f : Config.Fault} (hmiss : s.Consults (slot.request source))
      (hforce : s.inForce = .error f) :
      Requested engine s slot source (.failed (.environment f), s.missed slot)
  | rejected {c : Config} {cache : Cache Code} {e : CompileError}
      (hmiss : s.Consults (slot.request source)) (hforce : s.inForce = .ok c)
      (hasked : s.asked c slot = some cache)
      (hcompile : Regex.compile engine c source = .error e) :
      Requested engine s slot source (.failed (.compile e), s.settled.withCache slot cache.miss)
  | emptied {c : Config} {cache : Cache Code} {r : Regex Code}
      (hmiss : s.Consults (slot.request source)) (hforce : s.inForce = .ok c)
      (hasked : s.asked c slot = some cache) (hcompile : Regex.compile engine c source = .ok r)
      (hinsert : cache.miss.insert? source ⟨s.nextIdentity, r⟩ = none) :
      Requested engine s slot source (.failed .cacheEmptied,
        { s.settled with nextIdentity := s.nextIdentity + 1 }.withCache slot cache.miss.emptied)
  | built {c : Config} {cache cache' : Cache Code} {r : Regex Code}
      (hmiss : s.Consults (slot.request source)) (hforce : s.inForce = .ok c)
      (hasked : s.asked c slot = some cache) (hcompile : Regex.compile engine c source = .ok r)
      (hinsert : cache.miss.insert? source ⟨s.nextIdentity, r⟩ = some cache') :
      Requested engine s slot source (.object ⟨s.nextIdentity, r⟩,
        { s.settled with nextIdentity := s.nextIdentity + 1 }.withCache slot cache')

/-- A miss without a configuration is counted by the cache and changes nothing else. -/
theorem request_of_unread (hfind : cache.find? source = none) (hforce : s.inForce = .error f) :
    s.request engine cache source = (.error (.environment f), cache.miss, s) := by
  simp only [request, hfind, compile, configured_eq, hforce, settled_of_error hforce]

/-- A miss does the same in a session whose configuration has been stored before. -/
theorem request_settled (hfind : cache.find? source = none) (hforce : s.inForce = .ok c) :
    s.settled.request engine cache source = s.request engine cache source := by
  simp only [request, hfind, compile, configured_eq, hforce, inForce_settled hforce,
    settled_settled hforce]

/-- What comes of a miss with a configuration in force. -/
theorem requested_of_asked (hmiss : s.Consults (slot.request source)) (hforce : s.inForce = .ok c)
    (hasked : s.asked c slot = some cache) (hfind : cache.find? source = none) :
    Requested engine s slot source (answer (s.request engine cache source).1,
      (s.request engine cache source).2.2.withCache slot (s.request engine cache source).2.1) := by
  cases hcompile : Regex.compile engine c source with
  | error e =>
    simp only [request, hfind, compile, compileUnder, configured_eq, hforce, hcompile]
    exact .rejected hmiss hforce hasked hcompile
  | ok r =>
    cases hinsert : cache.miss.insert? source ⟨s.nextIdentity, r⟩ with
    | none =>
      have hinsert' : cache.miss.insert? source ⟨s.settled.nextIdentity, r⟩ = none := hinsert
      simp only [request, hfind, compile, compileUnder, configured_eq, hforce, hcompile, hinsert']
      exact .emptied hmiss hforce hasked hcompile hinsert
    | some cache' =>
      have hinsert' : cache.miss.insert? source ⟨s.settled.nextIdentity, r⟩ = some cache' := hinsert
      simp only [request, hfind, compile, compileUnder, configured_eq, hforce, hcompile, hinsert']
      exact .built hmiss hforce hasked hcompile hinsert

theorem step_request (engine : Engine Code) (source : Source) (h : s.cache? slot = some cache) :
    s.step engine (slot.request source) = (answer (s.request engine cache source).1,
      (s.request engine cache source).2.2.withCache slot (s.request engine cache source).2.1) := by
  cases slot with
  | process =>
    have hcache : s.processCache = some cache := h
    simp only [Slot.request, step, requestProcess, hcache]
    rfl
  | own =>
    have hcache : s.ownCache = some cache := h
    simp only [Slot.request, step, requestOwn, hcache]
    rfl

/-- **What can come of a request**, with the session after it. -/
theorem requested (engine : Engine Code) (s : Session Code) (slot : Slot) (source : Source) :
    Requested engine s slot source (s.step engine (slot.request source)) := by
  cases hcache : s.cache? slot with
  | some cache =>
    rw [step_request engine source hcache]
    cases hfind : cache.find? source with
    | some o =>
      simp only [request, hfind]
      exact .hit hcache hfind
    | none =>
      have hmiss := (consults_request_iff hcache).2 (Cache.find?_eq_none_iff.1 hfind)
      cases hforce : s.inForce with
      | ok c => exact requested_of_asked hmiss hforce (asked_of_cache? hcache) hfind
      | error f =>
        have hunread : Requested engine s slot source (_, s.missed slot) := .unread hmiss hforce
        rw [missed, hcache] at hunread
        rwa [request_of_unread hfind hforce]
  | none =>
    cases slot with
    | own =>
      have hnone : s.ownCache = none := hcache
      simp only [Slot.request, step, requestOwn, hnone]
      exact .absent rfl hnone
    | process =>
      have hnone : s.processCache = none := hcache
      have hmiss : s.Consults (Slot.process.request source) := by
        intro cache h
        rw [hnone] at h
        cases h
      cases hforce : s.inForce with
      | error f =>
        simp only [Slot.request, step, requestProcess, hnone, configured_eq, hforce,
          settled_of_error hforce]
        have hmissed : s.missed .process = s := by rw [missed, hcache]
        have hunread : Requested engine s .process source (_, s.missed .process) :=
          .unread hmiss hforce
        rwa [hmissed] at hunread
      | ok c =>
        -- The new cache holds nothing, so the request for it is a miss.
        simp only [Slot.request, step, requestProcess, hnone, configured_eq, hforce]
        rw [request_settled rfl hforce]
        exact requested_of_asked hmiss hforce (by rw [asked, hnone]; rfl) rfl

/-! ## What a step does to a cache -/

/-- A request leaves the other cache alone. -/
theorem Requested.cache?_of_ne {p : Answer Code × Session Code}
    (h : Requested engine s slot source p) (hne : slot' ≠ slot) :
    p.2.cache? slot' = s.cache? slot' := by
  cases h with
  | hit | rejected | emptied | built => exact cache?_withCache_of_ne hne
  | absent => rfl
  | unread =>
    unfold missed
    split
    · exact cache?_withCache_of_ne hne
    · rfl

/-- A step that is no request of a cache leaves it as it is, drops it or leaves it without entries. -/
theorem cache?_step {step : Step} (h : ∀ source, step ≠ slot.request source) :
    (s.step engine step).2.cache? slot = s.cache? slot ∨
      (slot = .process ∧ (s.step engine step).2.cache? slot = none) ∨
      (slot = .own ∧ ∃ cache, (s.step engine step).2.cache? slot = some cache ∧ cache.entries = []) := by
  cases step with
  | setVariable name value | unsetVariable name | setConfig config =>
    left
    cases slot <;> rfl
  | getConfig =>
    left
    simp only [Session.step, configured_eq]
    cases s.inForce <;> cases slot <;> rfl
  | compileCached source =>
    left
    refine (requested engine s .process source).cache?_of_ne ?_
    rintro rfl
    exact h source rfl
  | get source =>
    left
    refine (requested engine s .own source).cache?_of_ne ?_
    rintro rfl
    exact h source rfl
  | clearProcessCache =>
    cases slot with
    | process => exact .inr (.inl ⟨rfl, rfl⟩)
    | own => exact .inl rfl
  | newCache maxSize =>
    cases slot with
    | process => exact .inl rfl
    | own => exact .inr (.inr ⟨rfl, _, rfl, rfl⟩)
  | clear =>
    cases slot with
    | process => exact .inl rfl
    | own =>
      cases hcache : s.ownCache with
      | none => exact .inl (by simp only [Session.step, cache?, hcache, Option.map_none])
      | some cache =>
        refine .inr (.inr ⟨rfl, cache.clear, ?_, rfl⟩)
        simp only [Session.step, cache?, hcache, Option.map_some]

/-! ## Runs -/

/-- The session after the first `i` steps of a run. -/
def stage (engine : Engine Code) (s : Session Code) (steps : List Step) (i : Nat) : Session Code :=
  after engine s (steps.take i)

variable {steps : List Step} {step : Step} {i n : Nat}

theorem after_append (engine : Engine Code) (s : Session Code) (steps steps' : List Step) :
    after engine s (steps ++ steps') = after engine (after engine s steps) steps' := by
  induction steps generalizing s with
  | nil => rfl
  | cons step steps ih => rw [List.cons_append, after_cons, after_cons, ih]

theorem stage_cons_succ (engine : Engine Code) (s : Session Code) (step : Step) (steps : List Step)
    (n : Nat) :
    stage engine s (step :: steps) (n + 1) = stage engine (s.step engine step).2 steps n := by
  rw [stage, List.take_succ_cons, after_cons, stage]

theorem stage_succ (h : steps[i]? = some step) :
    stage engine s steps (i + 1) = ((stage engine s steps i).step engine step).2 := by
  rw [stage, List.take_add_one, h, after_append]
  rfl

theorem stage_succ_of_none (h : steps[i]? = none) :
    stage engine s steps (i + 1) = stage engine s steps i := by
  rw [stage, List.take_add_one, h, stage]
  simp

/-- What a run answers at a position is what the step there answers at its stage. -/
theorem getElem?_run (engine : Engine Code) (s : Session Code) (steps : List Step) (i : Nat) :
    (run engine s steps)[i]? =
      steps[i]?.map ((stage engine s steps i).step engine ·) := by
  induction steps generalizing s i with
  | nil => rfl
  | cons step steps ih =>
    cases i with
    | zero => rfl
    | succ i =>
      rw [run, List.getElem?_cons_succ, List.getElem?_cons_succ, ih, stage, stage, List.take_succ_cons,
        after_cons]

end Session

end RuleRegex
