import RuleRegex.Cache

/-!
# Sessions

A session has an environment, a configuration that is read from it when first needed and then kept, a
process cache that is made when first needed, and perhaps one cache of its own.

## Main definitions

* `Session` — the state.
* `Session.configured` — the configuration in force.
* `Session.compileUnder`, `Session.compile` — compiles a source under a configuration that is given, or
  under the one in force.
* `Session.requestProcess`, `Session.requestOwn` — asks a cache for the regex of a source.
* `Step`, `Session.step` — what can happen in a session, and what it answers.
-/

namespace RuleRegex

/-- The state of a session. `nextIdentity` is the identity of the next regex that is compiled. -/
structure Session (Code : Type) where
  environment : Environment := {}
  config : Option Config := none
  processCache : Option (Cache Code) := none
  ownCache : Option (Cache Code) := none
  nextIdentity : Nat := 0

inductive RequestError where
  | environment (f : Config.Fault)
  | compile (e : CompileError)
  /-- A cache of negative size cannot be emptied enough. -/
  | cacheEmptied
  /-- There is no cache to ask. -/
  | noCache
  deriving DecidableEq, Repr

namespace Session

variable {Code : Type}

/-- The configuration in force, which is read from the environment if it is unset. A failed reading
leaves it unset. -/
def configured (s : Session Code) : Except Config.Fault Config × Session Code :=
  match s.config with
  | some c => (.ok c, s)
  | none =>
    match Config.ofEnvironment s.environment with
    | .error f => (.error f, s)
    | .ok c => (.ok c, { s with config := some c })

/-- Compiles a source under a configuration and gives the regex an identity. -/
def compileUnder (engine : Engine Code) (s : Session Code) (c : Config) (source : Source) :
    Except RequestError (Object Code) × Session Code :=
  match Regex.compile engine c source with
  | .error e => (.error (.compile e), s)
  | .ok r => (.ok ⟨s.nextIdentity, r⟩, { s with nextIdentity := s.nextIdentity + 1 })

def compile (engine : Engine Code) (s : Session Code) (source : Source) :
    Except RequestError (Object Code) × Session Code :=
  match s.configured with
  | (.error f, s) => (.error (.environment f), s)
  | (.ok c, s) => s.compileUnder engine c source

/-- Asks a cache for the regex of a source, and compiles it on a miss. -/
def request (engine : Engine Code) (s : Session Code) (cache : Cache Code) (source : Source) :
    Except RequestError (Object Code) × Cache Code × Session Code :=
  match cache.find? source with
  | some o => (.ok o, cache.hit source o, s)
  | none =>
    match s.compile engine source with
    | (.error e, s) => (.error e, cache.miss, s)
    | (.ok o, s) =>
      match cache.miss.insert? source o with
      | some cache => (.ok o, cache, s)
      | none => (.error .cacheEmptied, cache.miss.emptied, s)

/-- Asks the process cache, which is made first if there is none. -/
def requestProcess (engine : Engine Code) (s : Session Code) (source : Source) :
    Except RequestError (Object Code) × Session Code :=
  match s.processCache with
  | some cache =>
    let (r, cache, s) := request engine s cache source
    (r, { s with processCache := some cache })
  | none =>
    match s.configured with
    | (.error f, s) => (.error (.environment f), s)
    | (.ok c, s) =>
      let (r, cache, s) := request engine s { maxSize := c.cacheSize } source
      (r, { s with processCache := some cache })

def requestOwn (engine : Engine Code) (s : Session Code) (source : Source) :
    Except RequestError (Object Code) × Session Code :=
  match s.ownCache with
  | none => (.error .noCache, s)
  | some cache =>
    let (r, cache, s) := request engine s cache source
    (r, { s with ownCache := some cache })

end Session

inductive Step where
  | setVariable (name value : String)
  | unsetVariable (name : String)
  | setConfig (config : Option Config)
  | getConfig
  | compileCached (source : Source)
  | clearProcessCache
  | newCache (maxSize : Int)
  | get (source : Source)
  | clear

inductive Answer (Code : Type) where
  | nothing
  | config (c : Config)
  | object (o : Object Code)
  | failed (e : RequestError)

namespace Session

variable {Code : Type}

def answer : Except RequestError (Object Code) → Answer Code
  | .ok o => .object o
  | .error e => .failed e

/-- What a step answers, and the session after it. -/
def step (engine : Engine Code) (s : Session Code) : Step → Answer Code × Session Code
  | .setVariable name value => (.nothing, { s with environment := s.environment.set name value })
  | .unsetVariable name => (.nothing, { s with environment := s.environment.unset name })
  | .setConfig config => (.nothing, { s with config })
  | .getConfig =>
    match s.configured with
    | (.ok c, s) => (.config c, s)
    | (.error f, s) => (.failed (.environment f), s)
  | .compileCached source =>
    let (r, s) := s.requestProcess engine source
    (answer r, s)
  | .clearProcessCache => (.nothing, { s with processCache := none })
  | .newCache maxSize => (.nothing, { s with ownCache := some { maxSize } })
  | .get source =>
    let (r, s) := s.requestOwn engine source
    (answer r, s)
  | .clear => (.nothing, { s with ownCache := s.ownCache.map Cache.clear })

def run (engine : Engine Code) : Session Code → List Step → List (Answer Code × Session Code)
  | _, [] => []
  | s, step :: steps =>
    let (a, s) := s.step engine step
    (a, s) :: run engine s steps

end Session

end RuleRegex
