import RuleRegex.Proofs.Cache.History

/-!
# The own cache of a session

What a session's own cache has answered says what it holds. Whatever else happens in the session, the
cache is as its history says after every step.

## Main definitions

* `Session.after` — the session after steps.
* `Session.ownHistory` — the calls of the own cache in steps, by what they answered.
-/

namespace RuleRegex

namespace Session

open Cache History

variable {Code : Type}

def after (engine : Engine Code) (s : Session Code) (steps : List Step) : Session Code :=
  ((run engine s steps).map Prod.snd).getLastD s

/-- The calls of the own cache in a step, by what it answered. -/
def ownCalls : Step → Answer Code → List Call
  | .get source, .object _ => [.returned source]
  | .get source, _ => [.failed source]
  | .clear, _ => [.cleared]
  | _, _ => []

def ownHistory (engine : Engine Code) (s : Session Code) (steps : List Step) : List Call :=
  (steps.zip (run engine s steps)).flatMap fun p => ownCalls p.1 p.2.1

theorem after_cons (engine : Engine Code) (s : Session Code) (step : Step) (steps : List Step) :
    after engine s (step :: steps) = after engine (s.step engine step).2 steps := by
  rw [after, run, List.map_cons, List.getLastD_cons]
  rfl

theorem ownHistory_cons (engine : Engine Code) (s : Session Code) (step : Step) (steps : List Step) :
    ownHistory engine s (step :: steps) =
      ownCalls step (s.step engine step).1 ++ ownHistory engine (s.step engine step).2 steps := rfl

/-- A request calls the own cache once, by what comes of the request. -/
theorem ownCalls_get (source : Source) (r : Except RequestError (Object Code)) :
    ownCalls (.get source) (answer r) = [.ofRequest source r] := by
  cases r <;> rfl

/-! ## What leaves the own cache as it is -/

@[simp] theorem configured_ownCache (s : Session Code) : s.configured.2.ownCache = s.ownCache := by
  unfold configured
  split
  · rfl
  · split <;> rfl

@[simp] theorem compile_ownCache (engine : Engine Code) (s : Session Code) (source : Source) :
    (s.compile engine source).2.ownCache = s.ownCache := by
  have hconfigured := s.configured_ownCache
  unfold compile
  split
  · next hc => rwa [hc] at hconfigured
  · next hc =>
    rw [hc] at hconfigured
    unfold compileUnder
    split <;> exact hconfigured

@[simp] theorem request_ownCache (engine : Engine Code) (s : Session Code) (cache : Cache Code)
    (source : Source) : (s.request engine cache source).2.2.ownCache = s.ownCache := by
  have hcompile := s.compile_ownCache engine source
  unfold request
  split
  · rfl
  · split
    · next hc => rwa [hc] at hcompile
    · next hc =>
      rw [hc] at hcompile
      split <;> exact hcompile

@[simp] theorem requestProcess_ownCache (engine : Engine Code) (s : Session Code) (source : Source) :
    (s.requestProcess engine source).2.ownCache = s.ownCache := by
  have hconfigured := s.configured_ownCache
  unfold requestProcess
  split
  · exact request_ownCache _ _ _ _
  · split
    · next hc => rwa [hc] at hconfigured
    · next hc =>
      rw [hc] at hconfigured
      exact (request_ownCache _ _ _ _).trans hconfigured

/-! ## Steps -/

variable {size : Nat} {calls : List Call} {c : Cache Code} {s : Session Code}

/-- **Every step keeps the own cache as its history says**, unless it makes a new one. -/
theorem exists_follows_step (engine : Engine Code) (hs : s.ownCache = some c)
    (h : Follows size calls c) (step : Step) (hstep : ∀ maxSize, step ≠ .newCache maxSize) :
    ∃ c', (s.step engine step).2.ownCache = some c' ∧
      Follows size (calls ++ ownCalls step (s.step engine step).1) c' := by
  cases step with
  | newCache maxSize => exact absurd rfl (hstep maxSize)
  | get source =>
    refine ⟨(s.request engine c source).2.1, ?_, ?_⟩
    · simp only [Session.step, requestOwn, hs]
    · simp only [Session.step, requestOwn, hs, ownCalls_get]
      exact h.request engine s source
  | clear =>
    refine ⟨c.clear, ?_, h.clear⟩
    simp only [Session.step, hs]
    rfl
  | setVariable name value | unsetVariable name | setConfig config | clearProcessCache =>
    exact ⟨c, hs, by simpa only [ownCalls, List.append_nil] using h⟩
  | getConfig =>
    have hconfigured := s.configured_ownCache
    refine ⟨c, ?_, by simpa only [ownCalls, List.append_nil] using h⟩
    rw [Session.step]
    split
    all_goals
      next hc =>
        rw [hc] at hconfigured
        exact hconfigured.trans hs
  | compileCached source =>
    refine ⟨c, ?_, by simpa only [ownCalls, List.append_nil] using h⟩
    exact (requestProcess_ownCache engine s source).trans hs

/-- The own cache follows its history through every run that does not make it anew. -/
theorem exists_follows_after (engine : Engine Code) (hs : s.ownCache = some c)
    (h : Follows size calls c) (steps : List Step) (hsteps : ∀ maxSize, Step.newCache maxSize ∉ steps) :
    ∃ c', (after engine s steps).ownCache = some c' ∧
      Follows size (calls ++ ownHistory engine s steps) c' := by
  induction steps generalizing s c calls with
  | nil => exact ⟨c, hs, by simpa [ownHistory] using h⟩
  | cons step steps ih =>
    have hne : ∀ maxSize, step ≠ .newCache maxSize := by
      rintro maxSize rfl
      exact hsteps maxSize List.mem_cons_self
    obtain ⟨c', hs', h'⟩ := exists_follows_step engine hs h step hne
    rw [after_cons, ownHistory_cons, ← List.append_assoc]
    exact ih hs' h' fun maxSize hmem => hsteps maxSize (List.mem_cons_of_mem _ hmem)

/-- **A cache keeps what was used last.** After any steps from its making on, it holds the last `size`
of the sources it returned since it was last cleared, by last use. A request is a hit exactly if its
source was returned and fewer than `size` others were after it, and the counts are of the calls that
were hits and of those that were not. -/
theorem ownCache_keeps_recent (engine : Engine Code) (s : Session Code) (size : Nat)
    (steps : List Step) (hsteps : ∀ maxSize, Step.newCache maxSize ∉ steps) :
    let t := after engine s (.newCache size :: steps)
    let calls := ownHistory engine s (.newCache size :: steps)
    ∃ c, t.ownCache = some c ∧ c.maxSize = size ∧
      c.sources = (recency calls).drop ((recency calls).length - min size (recency calls).length) ∧
      c.sources.Nodup ∧ c.sources.length ≤ size ∧
      (∀ source, (∃ o, t.request engine c source = (.ok o, c.hit source o, t)) ↔
        Recent size (returned calls) source) ∧
      c.hits = hits size calls ∧ c.misses = misses size calls := by
  intro t calls
  obtain ⟨c, hc, h⟩ := exists_follows_after engine (s := (s.step engine (.newCache size)).2) rfl
    (follows_new size) steps hsteps
  have hmin : (recency calls).rtake size =
      (recency calls).drop ((recency calls).length - min size (recency calls).length) := by
    rw [List.rtake]
    congr 1
    omega
  refine ⟨c, ?_, h.maxSize, h.sources.trans hmin, ?_, ?_, ?_, h.hits, h.misses⟩
  · exact (congrArg ownCache (after_cons engine s _ steps)).trans hc
  · rw [h.sources]
    exact (List.nodup_dedup _).sublist (List.drop_sublist _ _)
  · rw [h.sources]
    exact length_rtake_le _ _
  · intro source
    exact h.request_eq_hit_iff engine t

/-- An engine that matches nothing and compiles only patterns that regard case. -/
def pickyEngine : Engine Unit where
  loads _ := true
  compile _ ignoreCase := if ignoreCase then .error (1, 0) else .ok ()
  captureCount _ := 0
  run _ _ _ := ⟨noMatchCode, []⟩
  message _ := ""

/-- A cache of size one after a miss, a hit, a failure and a miss that evicts. -/
theorem ownCache_of_size_one :
    let steps : List Step := [.get ⟨[0x61], true⟩, .get ⟨[0x61], true⟩, .get ⟨[], false⟩,
      .get ⟨[0x62], true⟩]
    (∀ maxSize, Step.newCache maxSize ∉ steps) ∧
    ∃ c, (after pickyEngine { config := some {} } (.newCache (1 : Nat) :: steps)).ownCache = some c ∧
      c.sources = [⟨[0x62], true⟩] ∧ c.hits = 1 ∧ c.misses = 3 := by
  intro steps
  have hsteps : ∀ maxSize, Step.newCache maxSize ∉ steps := by
    intro maxSize
    simp [steps]
  have hcalls : ownHistory pickyEngine { config := some {} } (.newCache (1 : Nat) :: steps) =
      [.returned ⟨[0x61], true⟩, .returned ⟨[0x61], true⟩, .failed ⟨[], false⟩,
        .returned ⟨[0x62], true⟩] := rfl
  obtain ⟨c, hc, -, hsources, -, -, -, hhits, hmisses⟩ :=
    ownCache_keeps_recent pickyEngine { config := some {} } 1 steps hsteps
  rw [hcalls] at hsources hhits hmisses
  exact ⟨hsteps, c, hc, hsources.trans (by decide), hhits.trans (by decide), hmisses.trans (by decide)⟩

end Session

end RuleRegex
