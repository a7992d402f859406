import RuleRegex.Proofs.Regex.Limits
import RuleRegex.Session

/-!
# What comes of compiling

The engine decides first whether a source compiles. Only then the limits of the configuration are looked
at, and the first of them that the engine does not take is reported. What is compiled is matched under the
limits that the configuration sets and no others. A configuration that is given is the only one that
counts.

## Main definitions

* `Regex.verdict` — what the engine says of the converted pattern of a source.
* `Regex.Comes` — what can come of compiling a source.
* `Regex.report` — what is made of what the engine says of a match.
-/

namespace RuleRegex

namespace Regex

variable {Code : Type} {engine : Engine Code} {c : Config} {s : Source} {r : Regex Code}
  {name : String} {n : Int}

/-- What the engine says of the converted pattern of a source. -/
def verdict (engine : Engine Code) (s : Source) : Except (Int × Nat) Code :=
  engine.compile (convert s.pattern) (!s.caseSensitive)

inductive Comes (engine : Engine Code) (c : Config) (s : Source) :
    Except CompileError (Regex Code) → Prop
  | libraryMissing (hloads : engine.loads c.libraryPath = false) :
    Comes engine c s (.error .libraryMissing)
  | rejected {code : Int} {position : Nat} (hloads : engine.loads c.libraryPath = true)
    (h : verdict engine s = .error (code, position)) :
    Comes engine c s (.error (.rejected (rejection engine s code position)))
  | badLimit {code : Code} {name : String} {n : Int} (hloads : engine.loads c.libraryPath = true)
    (h : verdict engine s = .ok code)
    (hfirst : IsFirst (fun l => ¬Taken l.2) (namedLimits c) (name, some n)) :
    Comes engine c s (.error (.badLimit name n))
  | compiled {r : Regex Code} (hloads : engine.loads c.libraryPath = true)
    (h : verdict engine s = .ok r.code) (htaken : ∀ l ∈ namedLimits c, Taken l.2)
    (hlimits : Enforced c r.limits) (hcount : r.captureCount = engine.captureCount r.code) :
    Comes engine c s (.ok r)

theorem comes_compile (engine : Engine Code) (c : Config) (s : Source) :
    Comes engine c s (compile engine c s) := by
  rw [compile]
  split
  · next hloads =>
    split
    · next hverdict => exact .rejected hloads hverdict
    · next hverdict =>
      split
      · next hlimits =>
        obtain ⟨name, n, rfl, hfirst⟩ := isFirst_of_engineLimits hlimits
        exact .badLimit hloads hverdict hfirst
      · next hlimits =>
        obtain ⟨htaken, henforced⟩ := enforced_of_engineLimits hlimits
        exact .compiled hloads hverdict htaken henforced rfl
  · next hloads => exact .libraryMissing (Bool.not_eq_true _ ▸ hloads)

def report (engine : Engine Code) (count : Nat) (o : Outcome) :
    Except MatchError (Option (List (Option Span))) :=
  if o.code = noMatchCode then .ok none
  else if o.code < 0 then .error (.failed { code := some o.code, message := engine.message o.code })
  else .ok (some (spansOf count o))

theorem spans_proper (subject : Bytes) :
    r.spans engine (.proper subject) =
      report engine r.captureCount (engine.run r.code r.limits subject) := rfl

section Loaded

variable {code : Code} {position : Nat} {e : Int × Nat} {rej : Rejection}

/-- A source that the engine rejects is rejected, whatever the limits are. -/
theorem compile_eq_rejected_iff (hloads : engine.loads c.libraryPath = true) :
    compile engine c s = .error (.rejected rej) ↔
      ∃ code position, verdict engine s = .error (code, position) ∧
        rej = rejection engine s code position := by
  have hcomes := comes_compile engine c s
  constructor
  · intro h
    rw [h] at hcomes
    cases hcomes with
    | rejected _ hverdict => exact ⟨_, _, hverdict, rfl⟩
  · rintro ⟨code, position, hverdict, rfl⟩
    generalize compile engine c s = x at hcomes
    cases hcomes with
    | libraryMissing hmissing => cases hloads.symm.trans hmissing
    | rejected _ hverdict' => cases hverdict.symm.trans hverdict'; rfl
    | badLimit _ hverdict' => cases hverdict.symm.trans hverdict'
    | compiled _ hverdict' => cases hverdict.symm.trans hverdict'

/-- The limits of a source that the engine accepts are looked at in order. -/
theorem compile_eq_badLimit_iff (hloads : engine.loads c.libraryPath = true) :
    compile engine c s = .error (.badLimit name n) ↔
      (∃ code, verdict engine s = .ok code) ∧
        IsFirst (fun l => ¬Taken l.2) (namedLimits c) (name, some n) := by
  have hcomes := comes_compile engine c s
  constructor
  · intro h
    rw [h] at hcomes
    cases hcomes with
    | badLimit _ hverdict hfirst => exact ⟨⟨_, hverdict⟩, hfirst⟩
  · rintro ⟨⟨code, hverdict⟩, hfirst⟩
    generalize compile engine c s = x at hcomes
    cases hcomes with
    | libraryMissing hmissing => cases hloads.symm.trans hmissing
    | rejected _ hverdict' => cases hverdict.symm.trans hverdict'
    | badLimit _ _ hfirst' => cases hfirst.eq hfirst'; rfl
    | compiled _ _ htaken => exact absurd (htaken _ hfirst.mem) hfirst.holds

/-- A source compiles exactly if the engine takes its converted pattern and every limit. -/
theorem exists_compile_iff (hloads : engine.loads c.libraryPath = true) :
    (∃ r, compile engine c s = .ok r) ↔
      (∃ code, verdict engine s = .ok code) ∧ ∀ l ∈ namedLimits c, Taken l.2 := by
  have hcomes := comes_compile engine c s
  constructor
  · rintro ⟨r, h⟩
    rw [h] at hcomes
    cases hcomes with
    | compiled _ hverdict htaken => exact ⟨⟨_, hverdict⟩, htaken⟩
  · rintro ⟨⟨code, hverdict⟩, htaken⟩
    generalize compile engine c s = x at hcomes
    cases hcomes with
    | libraryMissing hmissing => cases hloads.symm.trans hmissing
    | rejected _ hverdict' => cases hverdict.symm.trans hverdict'
    | badLimit _ _ hfirst => exact absurd (htaken _ hfirst.mem) hfirst.holds
    | compiled => exact ⟨_, rfl⟩

end Loaded

/-- A regex is matched with the code that the engine made, under the limits that are enforced. -/
theorem of_compile (h : compile engine c s = .ok r) :
    verdict engine s = .ok r.code ∧ Enforced c r.limits ∧
      r.captureCount = engine.captureCount r.code := by
  have hcomes := comes_compile engine c s
  rw [h] at hcomes
  cases hcomes with
  | compiled _ hverdict _ hlimits hcount => exact ⟨hverdict, hlimits, hcount⟩

/-- **What comes of compiling a source with a library that loads.** The source is rejected exactly if the
engine rejects its converted pattern. Otherwise the first limit that the engine does not take is reported,
if there is one, and a regex is compiled if there is none. The regex is matched under exactly the limits
that are set. Whatever session a configuration is given in, the outcome is that of the configuration, and
the configuration of the session stays. -/
theorem compile_outcomes (engine : Engine Code) (c : Config) (s : Source)
    (hloads : engine.loads c.libraryPath = true) :
    (∀ rej, compile engine c s = .error (.rejected rej) ↔ ∃ code position,
      verdict engine s = .error (code, position) ∧ rej = rejection engine s code position) ∧
    (∀ name n, compile engine c s = .error (.badLimit name n) ↔
      (∃ code, verdict engine s = .ok code) ∧
        IsFirst (fun l => ¬Taken l.2) (namedLimits c) (name, some n)) ∧
    ((∃ r, compile engine c s = .ok r) ↔
      (∃ code, verdict engine s = .ok code) ∧ ∀ l ∈ namedLimits c, Taken l.2) ∧
    (∀ r, compile engine c s = .ok r → verdict engine s = .ok r.code ∧ Enforced c r.limits ∧
      ∀ subject, r.spans engine (.proper subject) =
        report engine (engine.captureCount r.code) (engine.run r.code r.limits subject)) ∧
    ∀ session : Session Code,
      (session.compileUnder engine c s).1.map Object.regex =
        (compile engine c s).mapError .compile ∧
      (session.compileUnder engine c s).2.config = session.config := by
  refine ⟨fun rej => compile_eq_rejected_iff hloads, fun name n => compile_eq_badLimit_iff hloads,
    exists_compile_iff hloads, fun r h => ?_, fun session => ?_⟩
  · obtain ⟨hverdict, hlimits, hcount⟩ := of_compile h
    refine ⟨hverdict, hlimits, fun subject => ?_⟩
    rw [spans_proper, hcount]
  · rw [Session.compileUnder]
    cases compile engine c s with
    | error e => exact ⟨rfl, rfl⟩
    | ok r => exact ⟨rfl, rfl⟩

/-- An engine that knows two patterns, a letter and an opening parenthesis. -/
def letterEngine : Engine Unit where
  loads _ := true
  compile pattern _ := if pattern = [0x28] then .error (114, 1) else .ok ()
  captureCount _ := 0
  run _ _ subject := if subject = [0x61] then ⟨1, [(some 0, some 1)]⟩ else ⟨noMatchCode, []⟩
  message _ := "missing closing parenthesis"

/-- Two bad limits beside a bad pattern and beside a good one, and a limit that is as large as may be. -/
theorem compile_outcomes_at_bounds :
    let c : Config := { matchLimit := some 4294967296, depthLimit := some 0 }
    let c' : Config := { heapLimit := some 4294967295 }
    letterEngine.loads c.libraryPath = true ∧ letterEngine.loads c'.libraryPath = true ∧
      compile letterEngine c ⟨[0x28], true⟩ =
        .error (.rejected (rejection letterEngine ⟨[0x28], true⟩ 114 1)) ∧
      compile letterEngine c ⟨[0x61], true⟩ = .error (.badLimit "match_limit" 4294967296) ∧
      ∃ r, compile letterEngine c' ⟨[0x61], true⟩ = .ok r ∧ Enforced c' r.limits := by
  intro c c'
  obtain ⟨hrejected, -⟩ := compile_outcomes letterEngine c ⟨[0x28], true⟩ rfl
  obtain ⟨-, hbad, -⟩ := compile_outcomes letterEngine c ⟨[0x61], true⟩ rfl
  obtain ⟨-, -, hok, hregex, -⟩ := compile_outcomes letterEngine c' ⟨[0x61], true⟩ rfl
  have hopen : verdict letterEngine ⟨[0x28], true⟩ = .error (114, 1) := by decide +kernel
  have hletter : verdict letterEngine ⟨[0x61], true⟩ = .ok () := by decide +kernel
  have htaken : ∀ l ∈ namedLimits c', Taken l.2 :=
    forall_namedLimits_iff.2 ⟨taken_none, taken_none, taken_some_iff.2 (by decide)⟩
  have hfirst : IsFirst (fun l => ¬Taken l.2) (namedLimits c) ("match_limit", some 4294967296) :=
    isFirst_cons_iff.2 (.inl ⟨mt taken_some_iff.1 (by decide), rfl⟩)
  obtain ⟨r, hr⟩ := hok.2 ⟨⟨(), hletter⟩, htaken⟩
  exact ⟨rfl, rfl, (hrejected _).2 ⟨114, 1, hopen, rfl⟩,
    (hbad _ _).2 ⟨⟨(), hletter⟩, hfirst⟩, r, hr, (hregex r hr).2.1⟩

end Regex

end RuleRegex
