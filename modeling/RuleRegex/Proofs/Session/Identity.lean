import RuleRegex.Proofs.Session.Request

/-!
# The objects of a session

Every object that a cache holds was built at a request for its source and has been held since. So the
time an object is held says everything about it: two of them for one source in one cache do not overlap,
and no two objects are built at one request.

## Main definitions

* `Session.Holds`, `Session.HoldsSource` — a cache has an object, or a source, in an entry.
* `Session.Returns` — a step of a run requests a source and returns an object.
* `Session.Built` — a request builds an object.
* `Session.Lifetime` — an object has been held from the request that built it up to a stage.
-/

namespace RuleRegex

/-- What a regex is, when a source compiles to it. -/
theorem Regex.of_compile_eq_ok {Code : Type} {engine : Engine Code} {c : Config} {source : Source}
    {r : Regex Code} (h : Regex.compile engine c source = .ok r) :
    r.source = source ∧ engine.compile (convert source.pattern) (!source.caseSensitive) = .ok r.code ∧
      Regex.engineLimits c = .ok r.limits ∧ r.jit = (c.useJit && engine.translates r.code) := by
  unfold Regex.compile at h
  split at h
  · cases hcode : engine.compile (convert source.pattern) (!source.caseSensitive) with
    | error e =>
      rw [hcode] at h
      cases h
    | ok code =>
      cases hlimits : Regex.engineLimits c with
      | error e =>
        rw [hcode, hlimits] at h
        cases h
      | ok limits =>
        rw [hcode, hlimits] at h
        cases h
        exact ⟨rfl, rfl, rfl, rfl⟩
  · cases h

namespace Cache

variable {Code : Type} {cache cache' : Cache Code} {source k : Source} {o o' : Object Code}

theorem mem_of_find? (h : cache.find? source = some o) : (source, o) ∈ cache.entries := by
  obtain ⟨before, rest, hentries, -⟩ := List.lookup_eq_some_iff.1 h
  rw [hentries]
  exact List.mem_append_right _ List.mem_cons_self

theorem mem_renewed {entries : List (Source × Object Code)}
    (h : (k, o) ∈ renewed entries source o') : (k, o) ∈ entries ∨ k = source ∧ o = o' := by
  rcases List.mem_append.1 h with h | h
  · exact .inl (List.mem_filter.1 h).1
  · exact .inr (Prod.mk.inj (List.mem_singleton.1 h))

theorem mem_hit (hfind : cache.find? source = some o') (h : (k, o) ∈ (cache.hit source o').entries) :
    (k, o) ∈ cache.entries := by
  rcases mem_renewed h with h | ⟨rfl, rfl⟩
  · exact h
  · exact mem_of_find? hfind

theorem mem_insert? (hinsert : cache.insert? source o' = some cache')
    (h : (k, o) ∈ cache'.entries) : (k, o) ∈ cache.entries ∨ k = source ∧ o = o' := by
  obtain ⟨size, -, rfl⟩ := exists_of_insert? hinsert
  exact mem_renewed (List.mem_of_mem_drop h)

end Cache

namespace Session

variable {Code : Type} {engine : Engine Code} {s : Session Code} {slot slot' : Slot}
  {k k' source : Source} {o o' : Object Code} {cache : Cache Code} {c : Config} {step : Step}
  {p : Answer Code × Session Code}

def Holds (s : Session Code) (slot : Slot) (k : Source) (o : Object Code) : Prop :=
  ∃ cache, s.cache? slot = some cache ∧ (k, o) ∈ cache.entries

def HoldsSource (s : Session Code) (slot : Slot) (k : Source) : Prop :=
  ∃ o, s.Holds slot k o

theorem mem_entries_of_holds (h : s.Holds slot k o) (hcache : s.cache? slot = some cache) :
    (k, o) ∈ cache.entries := by
  obtain ⟨cache', hcache', hmem⟩ := h
  rwa [Option.some.inj (hcache.symm.trans hcache')]

/-- A source whose request needs the configuration is not held. -/
theorem not_holdsSource_of_consults (hx : s.Consults (slot.request k)) : ¬s.HoldsSource slot k := by
  rintro ⟨o, cache, hcache, hmem⟩
  exact (consults_request_iff hcache).1 hx (List.mem_map.2 ⟨(k, o), hmem, rfl⟩)

/-- What a request finds in the cache it asks has been there: a new cache is empty. -/
theorem holds_of_mem_asked (hasked : s.asked c slot = some cache) (hmem : (k, o) ∈ cache.entries) :
    s.Holds slot k o := by
  rcases asked_eq_some hasked with hcache | ⟨-, -, rfl⟩
  · exact ⟨cache, hcache, hmem⟩
  · cases hmem

/-! ## What a step does to the objects -/

/-- A request of a slot for a source builds an object: the source is not held there, and the object is
new and what the source compiles to under the configuration in force. -/
structure Built (engine : Engine Code) (s : Session Code) (slot : Slot) (k : Source)
    (o : Object Code) (p : Answer Code × Session Code) : Prop where
  notHeld : ¬s.HoldsSource slot k
  compiled : ∃ c, s.inForce = .ok c ∧ Regex.compile engine c k = .ok o.regex
  identity : o.identity = s.nextIdentity
  answer : p.1 = .object o
  nextIdentity : p.2.nextIdentity = s.nextIdentity + 1

theorem Requested.nextIdentity_le (h : Requested engine s slot source p) :
    s.nextIdentity ≤ p.2.nextIdentity := by
  cases h with
  | absent => exact le_rfl
  | hit | unread | rejected | emptied | built => simp

/-- What a cache holds after it was asked it held before, or the request built it. -/
theorem Requested.holds_before (h : Requested engine s slot source p) (hp : p.2.Holds slot k o) :
    s.Holds slot k o ∨ k = source ∧ Built engine s slot source o p := by
  cases h with
  | hit hcache hfind =>
    have hmem := mem_entries_of_holds hp cache?_withCache_self
    exact .inl ⟨_, hcache, Cache.mem_hit hfind hmem⟩
  | absent => exact .inl hp
  | unread =>
    cases hcache : s.cache? slot with
    | some cache =>
      rw [missed, hcache] at hp
      have hmem := mem_entries_of_holds hp cache?_withCache_self
      exact .inl ⟨cache, hcache, hmem⟩
    | none =>
      rw [missed, hcache] at hp
      exact .inl hp
  | rejected _ _ hasked =>
    have hmem := mem_entries_of_holds hp cache?_withCache_self
    exact .inl (holds_of_mem_asked hasked hmem)
  | emptied =>
    have hmem := mem_entries_of_holds hp cache?_withCache_self
    cases hmem
  | built hmiss hforce hasked hcompile hinsert =>
    have hmem := mem_entries_of_holds hp cache?_withCache_self
    rcases Cache.mem_insert? hinsert hmem with hmem | ⟨hk, rfl⟩
    · exact .inl (holds_of_mem_asked hasked hmem)
    · exact .inr ⟨hk, not_holdsSource_of_consults hmiss, ⟨_, hforce, hcompile⟩, rfl, rfl,
        withCache_nextIdentity⟩

/-- What a request returns the cache held before, or the request built it. -/
theorem Requested.holds_of_answer (h : Requested engine s slot source p)
    (hp : p.1 = .object o) : s.Holds slot source o ∨ Built engine s slot source o p := by
  cases h with
  | hit hcache hfind =>
    cases hp
    exact .inl ⟨_, hcache, Cache.mem_of_find? hfind⟩
  | absent | unread | rejected | emptied => cases hp
  | built hmiss hforce hasked hcompile hinsert =>
    cases hp
    exact .inr ⟨not_holdsSource_of_consults hmiss, ⟨_, hforce, hcompile⟩, rfl, rfl,
      withCache_nextIdentity⟩

/-- **What a cache holds after a step it held before, or the step is the request that built it.** -/
theorem holds_step (h : (s.step engine step).2.Holds slot k o) :
    s.Holds slot k o ∨
      step = slot.request k ∧ Built engine s slot k o (s.step engine (slot.request k)) := by
  by_cases hstep : ∃ source, step = slot.request source
  · obtain ⟨source, rfl⟩ := hstep
    rcases (requested engine s slot source).holds_before h with h | ⟨rfl, h⟩
    · exact .inl h
    · exact .inr ⟨rfl, h⟩
  · obtain ⟨cache, hcache, hmem⟩ := h
    rcases cache?_step fun source he => hstep ⟨source, he⟩ with
      hsame | ⟨-, hnone⟩ | ⟨-, cache', hcache', hempty⟩
    · exact .inl ⟨cache, hsame.symm.trans hcache, hmem⟩
    · cases hnone.symm.trans hcache
    · obtain rfl := Option.some.inj (hcache'.symm.trans hcache)
      rw [hempty] at hmem
      cases hmem

theorem nextIdentity_le_step (engine : Engine Code) (s : Session Code) (step : Step) :
    s.nextIdentity ≤ (s.step engine step).2.nextIdentity := by
  cases step with
  | compileCached source => exact (requested engine s .process source).nextIdentity_le
  | get source => exact (requested engine s .own source).nextIdentity_le
  | getConfig =>
    simp only [Session.step, configured_eq]
    cases s.inForce <;> exact le_rfl
  | setVariable | unsetVariable | setConfig | clearProcessCache | newCache | clear => exact le_rfl

/-! ## Lifetimes -/

variable {steps : List Step} {b b' i n n' : Nat}

/-- Over a run the next identity only grows. -/
theorem monotone_nextIdentity (engine : Engine Code) (s : Session Code) (steps : List Step) :
    Monotone fun n => (stage engine s steps n).nextIdentity := by
  refine monotone_nat_of_le_succ fun n => ?_
  cases hstep : steps[n]? with
  | none => rw [stage_succ_of_none hstep]
  | some step =>
    rw [stage_succ hstep]
    exact nextIdentity_le_step _ _ _

/-- A step of a run requests a source of a slot and returns an object. -/
def Returns (engine : Engine Code) (s : Session Code) (steps : List Step) (i : Nat) (slot : Slot)
    (k : Source) (o : Object Code) : Prop :=
  steps[i]? = some (slot.request k) ∧
    ((run engine s steps)[i]?).map Prod.fst = some (.object o)

theorem returns_iff :
    Returns engine s steps i slot k o ↔ steps[i]? = some (slot.request k) ∧
      ((stage engine s steps i).step engine (slot.request k)).1 = .object o := by
  refine and_congr_right fun hstep => ?_
  rw [getElem?_run, hstep, Option.map_some, Option.map_some, Option.some_inj]

/-- An object is built at step `b` of a run and held at every stage after it up to `n`. -/
structure Lifetime (engine : Engine Code) (s : Session Code) (steps : List Step) (b n : Nat)
    (slot : Slot) (k : Source) (o : Object Code) : Prop where
  le : b ≤ n
  request : steps[b]? = some (slot.request k)
  built : Built engine (stage engine s steps b) slot k o
    ((stage engine s steps b).step engine (slot.request k))
  held : ∀ j, b < j → j ≤ n → (stage engine s steps j).Holds slot k o

/-- A lifetime goes on as long as the object is held. -/
theorem Lifetime.succ (h : Lifetime engine s steps b n slot k o)
    (hlast : (stage engine s steps (n + 1)).Holds slot k o) :
    Lifetime engine s steps b (n + 1) slot k o where
  le := Nat.le_succ_of_le h.le
  request := h.request
  built := h.built
  held := by
    intro j hbj hj
    rcases Nat.lt_or_eq_of_le hj with hj | rfl
    · exact h.held j hbj (by omega)
    · exact hlast

theorem Lifetime.returns (h : Lifetime engine s steps b n slot k o) :
    Returns engine s steps b slot k o :=
  returns_iff.2 ⟨h.request, h.built.answer⟩

/-- The next object after a lifetime has begun gets another identity. -/
theorem Lifetime.identity_lt (h : Lifetime engine s steps b n slot k o)
    (h' : Lifetime engine s steps b' n' slot' k' o') (hb : b < b') : o.identity < o'.identity := by
  have hnext := h.built.nextIdentity
  rw [← stage_succ h.request] at hnext
  have hmono := monotone_nextIdentity engine s steps hb
  have hid := h.built.identity
  have hid' := h'.built.identity
  simp only [Nat.succ_eq_add_one] at hmono
  omega

/-- One step builds one object at most. -/
theorem Lifetime.eq_of_begin (h : Lifetime engine s steps b n slot k o)
    (h' : Lifetime engine s steps b n' slot' k' o') : slot = slot' ∧ k = k' ∧ o = o' := by
  obtain ⟨rfl, rfl⟩ := Slot.request_inj (Option.some.inj (h.request.symm.trans h'.request))
  have hanswer := h.built.answer.symm.trans h'.built.answer
  exact ⟨rfl, rfl, Answer.object.inj hanswer⟩

/-- **An identity says when an object was built**, and so where, for which source and which it is. -/
theorem Lifetime.begin_eq_of_identity (h : Lifetime engine s steps b n slot k o)
    (h' : Lifetime engine s steps b' n' slot' k' o') (hid : o.identity = o'.identity) : b = b' := by
  rcases Nat.lt_trichotomy b b' with hb | hb | hb
  · exact absurd hid (h.identity_lt h' hb).ne
  · exact hb
  · exact absurd hid (h'.identity_lt h hb).ne'

/-- No object is built for a source while the cache holds one for it. -/
theorem Lifetime.le_begin (h' : Lifetime engine s steps b' n' slot k o')
    (hheld : ∀ j, b < j → j ≤ n → (stage engine s steps j).HoldsSource slot k) (hb : b' ≤ n) :
    b' ≤ b := by
  by_contra hlt
  exact h'.built.notHeld (hheld b' (by omega) hb)

/-- **Lifetimes of one source in one cache that overlap are the same.** -/
theorem Lifetime.begin_eq_of_overlap (h : Lifetime engine s steps b n slot k o)
    (h' : Lifetime engine s steps b' n' slot k o') (hb : b ≤ n') (hb' : b' ≤ n) : b = b' := by
  have hle := h.le_begin (fun j hbj hj => ⟨o', h'.held j hbj hj⟩) hb
  have hle' := h'.le_begin (fun j hbj hj => ⟨o, h.held j hbj hj⟩) hb'
  omega

/-- What a cache holds in a run that began without caches was built in it. -/
theorem exists_lifetime_of_holds (hs : ∀ slot, s.cache? slot = none)
    (h : (stage engine s steps n).Holds slot k o) :
    ∃ b < n, Lifetime engine s steps b n slot k o := by
  induction n with
  | zero =>
    obtain ⟨cache, hcache, -⟩ := h
    cases (hs slot).symm.trans hcache
  | succ n ih =>
    cases hstep : steps[n]? with
    | none =>
      have hn := h
      rw [stage_succ_of_none hstep] at hn
      obtain ⟨b, hb, hlife⟩ := ih hn
      exact ⟨b, by omega, hlife.succ h⟩
    | some step =>
      have hn := h
      rw [stage_succ hstep] at hn
      rcases holds_step hn with hn | ⟨rfl, hbuilt⟩
      · obtain ⟨b, hb, hlife⟩ := ih hn
        exact ⟨b, by omega, hlife.succ h⟩
      · refine ⟨n, by omega, by omega, hstep, hbuilt, fun j hnj hj => ?_⟩
        obtain rfl : j = n + 1 := by omega
        exact h

/-- What a request returns was built at it or before, and has been held since. -/
theorem exists_lifetime_of_returns (hs : ∀ slot, s.cache? slot = none)
    (h : Returns engine s steps i slot k o) : ∃ b, Lifetime engine s steps b i slot k o := by
  obtain ⟨hstep, hanswer⟩ := returns_iff.1 h
  rcases (requested engine _ slot k).holds_of_answer hanswer with hheld | hbuilt
  · obtain ⟨b, -, hlife⟩ := exists_lifetime_of_holds hs hheld
    exact ⟨b, hlife⟩
  · exact ⟨i, le_rfl, hstep, hbuilt, fun j hij hj => by omega⟩

/-- Two requests for a source return the same object exactly if the source was held all the time from
the first to the second. -/
theorem identity_eq_iff_held (hs : ∀ slot, s.cache? slot = none) {j : Nat} (hij : i < j)
    (hi : Returns engine s steps i slot k o) (hj : Returns engine s steps j slot k o') :
    o.identity = o'.identity ↔
      ∀ m, i < m → m ≤ j → (stage engine s steps m).HoldsSource slot k := by
  obtain ⟨b, hlife⟩ := exists_lifetime_of_returns hs hi
  obtain ⟨b', hlife'⟩ := exists_lifetime_of_returns hs hj
  constructor
  · intro hid m him hmj
    have hb := hlife.begin_eq_of_identity hlife' hid
    have hbi := hlife.le
    exact ⟨o', hlife'.held m (by omega) hmj⟩
  · intro hheld
    have hb' : b' ≤ i := hlife'.le_begin hheld hlife'.le
    obtain rfl := hlife.begin_eq_of_overlap hlife' (hlife.le.trans hij.le) hb'
    obtain ⟨-, -, rfl⟩ := hlife.eq_of_begin hlife'
    rfl

/-- Equal identities are of one object, which one cache returned for one source. -/
theorem eq_of_identity_eq (hs : ∀ slot, s.cache? slot = none) {j : Nat}
    (hi : Returns engine s steps i slot k o) (hj : Returns engine s steps j slot' k' o')
    (hid : o.identity = o'.identity) : slot = slot' ∧ k = k' ∧ o = o' := by
  obtain ⟨b, hlife⟩ := exists_lifetime_of_returns hs hi
  obtain ⟨b', hlife'⟩ := exists_lifetime_of_returns hs hj
  obtain rfl := hlife.begin_eq_of_identity hlife' hid
  exact hlife.eq_of_begin hlife'

/-- **An entry has the object that its source was last compiled to.** In every session, the object of an
entry was built, as a new one and from the source of the entry, when a request missed it, under the
configuration in force there, and the entry has been there ever since. Two requests of a cache for a
source return the same object exactly if the source was held all the time between them. Requests for
different sources or of different caches never do, and no object is ever held by both caches. -/
theorem cache_provenance (engine : Engine Code) (env : Environment) (steps : List Step) :
    let s : Session Code := { environment := env }
    let state : Nat → Session Code := stage engine s steps
    (∀ n slot k o, (state n).Holds slot k o → o.regex.source = k ∧ ∃ i < n,
      Returns engine s steps i slot k o ∧ ¬(state i).HoldsSource slot k ∧
      o.identity = (state i).nextIdentity ∧
      (∃ c, (state i).inForce = .ok c ∧ Regex.compile engine c k = .ok o.regex ∧
        engine.compile (convert k.pattern) (!k.caseSensitive) = .ok o.regex.code ∧
        Regex.engineLimits c = .ok o.regex.limits ∧
        o.regex.jit = (c.useJit && engine.translates o.regex.code)) ∧
      ∀ j, i < j → j ≤ n → (state j).Holds slot k o) ∧
    (∀ i j slot k o o', i < j → Returns engine s steps i slot k o →
      Returns engine s steps j slot k o' →
      (o.identity = o'.identity ↔ ∀ m, i < m → m ≤ j → (state m).HoldsSource slot k)) ∧
    (∀ i j slot slot' k k' o o', Returns engine s steps i slot k o →
      Returns engine s steps j slot' k' o' → o.identity = o'.identity →
      slot = slot' ∧ k = k' ∧ o = o') ∧
    (∀ m n k k' o o', (state m).Holds .process k o → (state n).Holds .own k' o' →
      o.identity ≠ o'.identity) := by
  intro s state
  have hs : ∀ slot, s.cache? slot = none := by
    intro slot
    cases slot <;> rfl
  refine ⟨fun n slot k o h => ?_, fun i j slot k o o' hij => identity_eq_iff_held hs hij,
    fun i j slot slot' k k' o o' => eq_of_identity_eq hs, fun m n k k' o o' h h' hid => ?_⟩
  · obtain ⟨i, hi, hlife⟩ := exists_lifetime_of_holds hs h
    obtain ⟨c, hforce, hcompile⟩ := hlife.built.compiled
    obtain ⟨hsource, hcode, hlimits, hjit⟩ := Regex.of_compile_eq_ok hcompile
    exact ⟨hsource, i, hi, hlife.returns, hlife.built.notHeld, hlife.built.identity,
      ⟨c, hforce, hcompile, hcode, hlimits, hjit⟩, hlife.held⟩
  · obtain ⟨b, -, hlife⟩ := exists_lifetime_of_holds hs h
    obtain ⟨b', -, hlife'⟩ := exists_lifetime_of_holds hs h'
    obtain rfl := hlife.begin_eq_of_identity hlife' hid
    obtain ⟨hslot, -⟩ := hlife.eq_of_begin hlife'
    cases hslot

/-- A cache of size one returns the object it holds, and a new one where another source came between. -/
example :
    let engine : Engine Unit :=
      { loads := fun _ => true, compile := fun _ _ => .ok (), captureCount := fun _ => 0,
        run := fun _ _ _ => ⟨noMatchCode, []⟩, message := fun _ => "" }
    let a : Source := ⟨[0x61], true⟩
    let b : Source := ⟨[0x62], true⟩
    let identity : Answer Unit → Option Nat
      | .object o => some o.identity
      | _ => none
    (run engine { config := some {} } [.newCache 1, .get a, .get a, .get b, .get a]).map
      (identity ·.1) = [none, some 0, some 0, some 1, some 2] := by
  decide +kernel

end Session

end RuleRegex
