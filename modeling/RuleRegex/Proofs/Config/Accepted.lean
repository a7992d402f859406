import RuleRegex.Proofs.Regex.Limits

/-!
# Configurations that are accepted

What is read from an environment was checked while it was read, so the engine finds nothing wrong with
its limits, and a cache of its size has room for an entry.

## Main definitions

* `Config.Accepted` — settings that nothing is wrong with.
-/

namespace RuleRegex

namespace Config

variable {env : Environment} {c : Config} {name : String} {bound : Option Int} {n : Int}

/-- Settings that nothing is wrong with: limits that the engine takes, room for an entry, and a library
path only if there is something in it. -/
structure Accepted (c : Config) : Prop where
  matchLimit : ∀ n ∈ c.matchLimit, 1 ≤ n ∧ n ≤ 4294967295
  depthLimit : ∀ n ∈ c.depthLimit, 1 ≤ n ∧ n ≤ 4294967295
  heapLimit : ∀ n ∈ c.heapLimit, 1 ≤ n ∧ n ≤ 4294967295
  cacheSize : 1 ≤ c.cacheSize
  libraryPath : c.libraryPath ≠ some ""

theorem bounds_of_readLimit (h : readLimit env name bound = .ok (some n)) :
    1 ≤ n ∧ ∀ b ∈ bound, n ≤ b := by
  unfold readLimit at h
  split at h
  · cases h
  split at h
  · cases h
  split at h
  · cases h
  split at h
  · cases h
  split at h
  · cases h
  · next hpos hbound =>
    cases h
    refine ⟨by omega, ?_⟩
    rintro b rfl
    simpa using hbound

/-- An empty library path is read as none. -/
theorem readPath_ne (env : Environment) : readPath env ≠ some "" := by
  intro h
  simpa using (Option.filter_eq_some_iff.1 h).2

/-- What the settings of an environment are read from. -/
theorem exists_of_ofEnvironment (h : ofEnvironment env = .ok c) :
    ∃ cacheSize, readLimit env cacheSizeVariable none = .ok cacheSize ∧
      readSwitch env useJitVariable = .ok c.useJit ∧
      readLimit env matchLimitVariable (some largestLimit) = .ok c.matchLimit ∧
      readLimit env depthLimitVariable (some largestLimit) = .ok c.depthLimit ∧
      readLimit env heapLimitVariable (some largestLimit) = .ok c.heapLimit ∧
      c.cacheSize = cacheSize.getD 512 ∧ c.libraryPath = readPath env := by
  obtain ⟨cacheSize, hcacheSize, h⟩ := bind_eq_ok_iff.1 h
  obtain ⟨useJit, huseJit, h⟩ := bind_eq_ok_iff.1 h
  obtain ⟨matchLimit, hmatch, h⟩ := bind_eq_ok_iff.1 h
  obtain ⟨depthLimit, hdepth, h⟩ := bind_eq_ok_iff.1 h
  obtain ⟨heapLimit, hheap, h⟩ := bind_eq_ok_iff.1 h
  cases h
  exact ⟨cacheSize, hcacheSize, huseJit, hmatch, hdepth, hheap, rfl, rfl⟩

theorem accepted_limit (h : readLimit env name (some largestLimit) = .ok (some n)) :
    1 ≤ n ∧ n ≤ 4294967295 := by
  obtain ⟨hpos, hbound⟩ := bounds_of_readLimit h
  exact ⟨hpos, hbound largestLimit rfl⟩

/-- **Nothing is wrong with settings that could be read from an environment.** -/
theorem accepted_of_ofEnvironment (h : ofEnvironment env = .ok c) : c.Accepted := by
  obtain ⟨cacheSize, hcacheSize, -, hmatch, hdepth, hheap, hsize, hpath⟩ := exists_of_ofEnvironment h
  constructor
  · rintro n hn
    rw [hn] at hmatch
    exact accepted_limit hmatch
  · rintro n hn
    rw [hn] at hdepth
    exact accepted_limit hdepth
  · rintro n hn
    rw [hn] at hheap
    exact accepted_limit hheap
  · rw [hsize]
    cases cacheSize with
    | none => decide
    | some n => exact (bounds_of_readLimit hcacheSize).1
  · rw [hpath]
    exact readPath_ne env

end Config

namespace Regex

variable {Code : Type} {engine : Engine Code} {c : Config}

/-- The engine takes limits that are accepted. -/
theorem exists_engineLimits (h : c.Accepted) : ∃ limits, engineLimits c = .ok limits := by
  cases hlimits : engineLimits c with
  | ok limits => exact ⟨limits, rfl⟩
  | error e =>
    obtain ⟨name, n, -, hfirst⟩ := isFirst_of_engineLimits hlimits
    have htaken : ∀ l ∈ namedLimits c, Taken l.2 :=
      forall_namedLimits_iff.2 ⟨h.matchLimit, h.depthLimit, h.heapLimit⟩
    exact absurd (htaken _ hfirst.mem) hfirst.holds

/-- With a library that loads and limits that are accepted, what the engine says of the converted pattern
decides what comes of a source. -/
theorem compile_of_accepted (h : c.Accepted) (hloads : engine.loads c.libraryPath = true)
    (source : Source) :
    (∃ code r, engine.compile (convert source.pattern) (!source.caseSensitive) = .ok code ∧
      compile engine c source = .ok r) ∨
    ∃ code position,
      engine.compile (convert source.pattern) (!source.caseSensitive) = .error (code, position) ∧
      compile engine c source = .error (.rejected (rejection engine source code position)) := by
  obtain ⟨limits, hlimits⟩ := exists_engineLimits h
  rw [compile, if_pos hloads]
  cases engine.compile (convert source.pattern) (!source.caseSensitive) with
  | ok code =>
    rw [hlimits]
    exact .inl ⟨code, _, rfl, rfl⟩
  | error e => exact .inr ⟨e.1, e.2, rfl, rfl⟩

end Regex

end RuleRegex
