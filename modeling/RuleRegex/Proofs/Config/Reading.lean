import RuleRegex.Proofs.Config.Accepted
import RuleRegex.Proofs.Text.Integer

/-!
# What is read of an environment

Each setting has a variable. Some texts of the variable mean something for the setting, and without the
variable it has a value of its own. The settings of an environment are read unless a variable is set to a
text that means nothing. The first such variable is reported. Settings that are written out are read back.

## Main definitions

* `Config.MeansLimit`, `Config.MeansSwitch`, `Config.MeansPath` — what texts mean.
* `Config.Setting`, `Config.Setting.Reads` — a setting with its variable, and what it is in an
  environment.
* `Config.Invalid`, `Config.checks` — a variable is set to a text that means nothing, and the variables
  in the order in which they are looked at.
* `Config.Written` — an environment that settings are written to.
-/

namespace RuleRegex

namespace Config

variable {α β : Type} {env env' : Environment} {c c' : Config} {name value : String}
  {bound limit limit' : Option Int} {n : Int} {b : Bool} {path path' : Option String} {f : Fault}

/-! ## What texts mean -/

def Blank (value : String) : Prop := ∀ c ∈ value.toList, Text.isBlank c = true

/-- What a text means as a limit that may have a bound. A text of blanks means that there is none. -/
inductive MeansLimit (bound : Option Int) (value : String) : Option Int → Prop
  | blank (h : Blank value) : MeansLimit bound value none
  | number {n : Int} (h : Text.Numeral value.toList n) (hpos : 0 < n) (hbound : ∀ m ∈ bound, n ≤ m) :
    MeansLimit bound value (some n)

/-- What a text means as a switch: one of the words, in either case and with blanks around it. No
character beyond ASCII has a letter of these words as its lower case. -/
inductive MeansSwitch (value : String) : Bool → Prop
  | on {word : List Char} (h : Text.Padded Text.isBlank value.toList word)
    (hword : String.ofList (word.map Char.toLower) ∈ trueWords) : MeansSwitch value true
  | off {word : List Char} (h : Text.Padded Text.isBlank value.toList word)
    (hword : String.ofList (word.map Char.toLower) ∈ falseWords) : MeansSwitch value false

inductive MeansPath (value : String) : Option String → Prop
  | empty (h : value = "") : MeansPath value none
  | path (h : value ≠ "") : MeansPath value (some value)

theorem blank_iff : Blank value ↔ (Text.stripped value.toList).isEmpty = true := by
  have hstripped : Text.stripped value.toList = Text.trimmed Text.isBlank value.toList := rfl
  rw [hstripped, List.isEmpty_iff, Text.trimmed_eq_nil_iff, Blank]

theorem not_blank_of_numeral (h : Text.Numeral value.toList n) : ¬Blank value := by
  intro hblank
  obtain ⟨c, hc, hnot⟩ := h.exists_not_isBlank
  cases (hblank c hc).symm.trans hnot

/-- What is not blank means a limit exactly if it is a positive integer within the bound. -/
theorem meansLimit_iff_of_not_blank (hblank : ¬Blank value) :
    MeansLimit bound value limit ↔ ∃ n, Text.integer? value.toList = some n ∧ 0 < n ∧
      (∀ m ∈ bound, n ≤ m) ∧ limit = some n := by
  constructor
  · rintro (h | ⟨h, hpos, hbound⟩)
    · exact absurd h hblank
    · exact ⟨_, Text.integer?_eq_some_iff.2 h, hpos, hbound, rfl⟩
  · rintro ⟨n, h, hpos, hbound, rfl⟩
    exact .number (Text.integer?_eq_some_iff.1 h) hpos hbound

/-- A text means one limit at most. -/
theorem MeansLimit.unique (h : MeansLimit bound value limit) (h' : MeansLimit bound value limit') :
    limit = limit' := by
  cases h with
  | blank hblank =>
    cases h' with
    | blank => rfl
    | number hn => exact absurd hblank (not_blank_of_numeral hn)
  | number hn =>
    obtain ⟨m, hm, -, -, rfl⟩ := (meansLimit_iff_of_not_blank (not_blank_of_numeral hn)).1 h'
    exact (Text.integer?_eq_some_iff.2 hn).symm.trans hm

/-- What a text means as a switch is what it is read as. -/
theorem meansSwitch_iff : MeansSwitch value b ↔ boolean? value = some b := by
  have hdisjoint : ∀ word ∈ falseWords, word ∉ trueWords := by decide
  have hpadded : Text.Padded Text.isBlank value.toList (Text.stripped value.toList) :=
    Text.padded_trimmed _ _
  constructor
  · rintro (⟨h, hword⟩ | ⟨h, hword⟩) <;> obtain rfl := Text.padded_iff.1 h
    · exact if_pos hword
    · exact (if_neg (hdisjoint _ hword)).trans (if_pos hword)
  · intro h
    simp only [boolean?] at h
    split at h
    · next hword =>
      cases h
      exact .on hpadded hword
    · split at h
      · next hword =>
        cases h
        exact .off hpadded hword
      · cases h

theorem MeansPath.unique (h : MeansPath value path) (h' : MeansPath value path') : path = path' := by
  cases h <;> cases h' <;> first | rfl | contradiction

/-! ## Settings -/

/-- A setting: its variable, what it is without the variable, and what it is by texts of the
variable. -/
structure Setting (α : Type) where
  name : String
  unset : α
  means : String → α → Prop
  /-- A text means one thing at most. -/
  unique : ∀ {value : String} {a a' : α}, means value a → means value a' → a = a'

def limitSetting (name : String) (bound : Option Int) : Setting (Option Int) :=
  ⟨name, none, MeansLimit bound, MeansLimit.unique⟩

def switchSetting (name : String) : Setting Bool where
  name := name
  unset := true
  means := MeansSwitch
  unique h h' := Option.some.inj ((meansSwitch_iff.1 h).symm.trans (meansSwitch_iff.1 h'))

def pathSetting : Setting (Option String) :=
  ⟨libraryPathVariable, none, MeansPath, MeansPath.unique⟩

def Fault.variable : Fault → String
  | notBoolean name _ => name
  | notInteger name _ => name
  | notPositive name _ => name
  | tooLarge name _ => name

/-- What is said of a fault begins with its variable. -/
theorem Fault.exists_message_eq (f : Fault) : ∃ rest, f.message = f.variable ++ rest := by
  cases f with
  | notBoolean | notInteger | notPositive => exact ⟨_, String.append_assoc⟩
  | tooLarge name value =>
    refine ⟨" must be at most " ++ (toString largestLimit ++ (", got " ++ toString value)), ?_⟩
    simp only [message, Fault.variable, String.append_assoc]

/-- The variable that a check is of is set to a text that does not pass it. -/
def Invalid (env : Environment) (check : String × (String → Prop)) : Prop :=
  ∃ value, env.get? check.1 = some value ∧ ¬check.2 value

namespace Setting

variable {s : Setting α} {a a' : α} {x : Except Fault α} {k : α → Except Fault β}
  {checks : List (String × (String → Prop))}

inductive Reads (s : Setting α) (env : Environment) : α → Prop
  | unset (h : env.get? s.name = none) : Reads s env s.unset
  | set {value : String} {a : α} (h : env.get? s.name = some value) (hmeans : s.means value a) :
    Reads s env a

/-- The variable of a setting, and the texts that mean something for it. -/
def check (s : Setting α) : String × (String → Prop) := (s.name, fun value => ∃ a, s.means value a)

/-- What comes of reading a setting: what it is, or a fault of its variable. -/
inductive Outcome (s : Setting α) (env : Environment) : Except Fault α → Prop
  | read {a : α} (h : s.Reads env a) : Outcome s env (.ok a)
  | reported {f : Fault} (h : Invalid env s.check) (hvariable : f.variable = s.name) :
    Outcome s env (.error f)

/-- A setting depends on its own variable only. -/
theorem Reads.eq_of_agree (h : s.Reads env a) (h' : s.Reads env' a')
    (hagree : env.get? s.name = env'.get? s.name) : a = a' := by
  cases h with
  | unset h =>
    cases h' with
    | unset => rfl
    | set h' => cases (h.symm.trans hagree).trans h'
  | set h hmeans =>
    cases h' with
    | unset h' => cases (h.symm.trans hagree).trans h'
    | set h' hmeans' =>
      obtain rfl := Option.some.inj ((h.symm.trans hagree).trans h')
      exact s.unique hmeans hmeans'

theorem Reads.not_invalid (h : s.Reads env a) : ¬Invalid env s.check := by
  rintro ⟨value, hvalue, hnothing⟩
  cases h with
  | unset h => cases h.symm.trans hvalue
  | set h hmeans =>
    obtain rfl := Option.some.inj (h.symm.trans hvalue)
    exact hnothing ⟨_, hmeans⟩

/-- Reading a setting gives exactly what it is. -/
theorem Outcome.eq_ok_iff (hx : s.Outcome env x) : x = .ok a ↔ s.Reads env a := by
  cases hx with
  | read h =>
    constructor
    · intro heq
      cases heq
      exact h
    · exact fun h' => congrArg Except.ok (h.eq_of_agree h' rfl)
  | reported h => exact ⟨nofun, fun h' => absurd h h'.not_invalid⟩

/-- Of settings that are read one after the other, the first that is invalid is reported. -/
theorem Outcome.isFirst_of_bind (hx : s.Outcome env x) (h : (x >>= k) = .error f)
    (hk : ∀ a, k a = .error f → ∃ check, IsFirst (Invalid env) checks check ∧ f.variable = check.1) :
    ∃ check, IsFirst (Invalid env) (s.check :: checks) check ∧ f.variable = check.1 := by
  refine exists_isFirst_of_bind h ?_ (fun a ha => (hx.eq_ok_iff.1 ha).not_invalid) hk
  rintro rfl
  cases hx with
  | reported hinvalid hvariable => exact ⟨hinvalid, hvariable⟩

end Setting

theorem outcome_readSwitch (env : Environment) (name : String) :
    (switchSetting name).Outcome env (readSwitch env name) := by
  unfold readSwitch
  split
  · next h => exact .read (.unset h)
  · next value h =>
    split
    · next b hb => exact .read (.set h (meansSwitch_iff.2 hb))
    · next hb =>
      refine .reported ⟨value, h, ?_⟩ rfl
      rintro ⟨b, hmeans⟩
      cases hb.symm.trans (meansSwitch_iff.1 hmeans)

theorem outcome_readLimit (env : Environment) (name : String) (bound : Option Int) :
    (limitSetting name bound).Outcome env (readLimit env name bound) := by
  unfold readLimit
  split
  · next h => exact .read (.unset h)
  next value h =>
  split
  · next hblank => exact .read (.set h (.blank (blank_iff.2 hblank)))
  next hblank =>
  have hreported {f : Fault} (hvariable : f.variable = name)
      (hnot : ∀ n, Text.integer? value.toList = some n → 0 < n → ¬∀ m ∈ bound, n ≤ m) :
      (limitSetting name bound).Outcome env (.error f) := by
    refine .reported ⟨value, h, ?_⟩ hvariable
    rintro ⟨limit, hmeans⟩
    obtain ⟨n, hn, hpos, hbound, -⟩ := (meansLimit_iff_of_not_blank (mt blank_iff.1 hblank)).1 hmeans
    exact hnot n hn hpos hbound
  split
  · next hn => exact hreported rfl fun n hn' => nomatch hn.symm.trans hn'
  next n hn =>
  split
  · next hle =>
    refine hreported rfl fun m hm hpos => ?_
    obtain rfl := Option.some.inj (hn.symm.trans hm)
    omega
  next hpos =>
  have hany : bound.any (· < n) = true ↔ ¬∀ m ∈ bound, n ≤ m := by
    cases bound <;> simp
  split
  · next hlarge =>
    refine hreported rfl fun m hm _ => ?_
    obtain rfl := Option.some.inj (hn.symm.trans hm)
    exact hany.1 hlarge
  · next hbound =>
    have hle := not_not.1 (mt hany.2 hbound)
    exact .read (.set h (.number (Text.integer?_eq_some_iff.1 hn) (by omega) hle))

theorem reads_readPath (env : Environment) : pathSetting.Reads env (readPath env) := by
  unfold readPath
  cases h : env.get? libraryPathVariable with
  | none => exact .unset h
  | some value =>
    refine .set h ?_
    by_cases hvalue : value = ""
    · rw [hvalue]
      exact .empty rfl
    · rw [Option.filter_some, if_pos (by simpa using hvalue)]
      exact .path hvalue

/-! ## Environments -/

/-- The variables that settings are checked in, in the order in which they are looked at. -/
def checks : List (String × (String → Prop)) :=
  [(limitSetting cacheSizeVariable none).check, (switchSetting useJitVariable).check,
    (limitSetting matchLimitVariable (some largestLimit)).check,
    (limitSetting depthLimitVariable (some largestLimit)).check,
    (limitSetting heapLimitVariable (some largestLimit)).check]

structure ReadsEach (env : Environment) (c : Config) : Prop where
  libraryPath : pathSetting.Reads env c.libraryPath
  useJit : (switchSetting useJitVariable).Reads env c.useJit
  matchLimit : (limitSetting matchLimitVariable (some largestLimit)).Reads env c.matchLimit
  depthLimit : (limitSetting depthLimitVariable (some largestLimit)).Reads env c.depthLimit
  heapLimit : (limitSetting heapLimitVariable (some largestLimit)).Reads env c.heapLimit
  /-- The cache has room for 512 entries where nothing else is set. -/
  cacheSize : ∃ size, (limitSetting cacheSizeVariable none).Reads env size ∧ c.cacheSize = size.getD 512

/-- Settings are the same where two environments agree on the variable. -/
structure SameOnAgreement (env env' : Environment) (c c' : Config) : Prop where
  libraryPath (h : env.get? libraryPathVariable = env'.get? libraryPathVariable) :
    c.libraryPath = c'.libraryPath
  useJit (h : env.get? useJitVariable = env'.get? useJitVariable) : c.useJit = c'.useJit
  matchLimit (h : env.get? matchLimitVariable = env'.get? matchLimitVariable) :
    c.matchLimit = c'.matchLimit
  depthLimit (h : env.get? depthLimitVariable = env'.get? depthLimitVariable) :
    c.depthLimit = c'.depthLimit
  heapLimit (h : env.get? heapLimitVariable = env'.get? heapLimitVariable) : c.heapLimit = c'.heapLimit
  cacheSize (h : env.get? cacheSizeVariable = env'.get? cacheSizeVariable) : c.cacheSize = c'.cacheSize

/-- An environment is read as settings exactly if each setting is what it is in the environment. -/
theorem ofEnvironment_eq_ok_iff : ofEnvironment env = .ok c ↔ ReadsEach env c := by
  constructor
  · intro h
    obtain ⟨size, hsize, huseJit, hmatch, hdepth, hheap, hcacheSize, hpath⟩ := exists_of_ofEnvironment h
    refine ⟨hpath ▸ reads_readPath env, (outcome_readSwitch env _).eq_ok_iff.1 huseJit,
      (outcome_readLimit env _ _).eq_ok_iff.1 hmatch, (outcome_readLimit env _ _).eq_ok_iff.1 hdepth,
      (outcome_readLimit env _ _).eq_ok_iff.1 hheap, size, ?_, hcacheSize⟩
    exact (outcome_readLimit env _ _).eq_ok_iff.1 hsize
  · intro h
    obtain ⟨size, hsize, hcacheSize⟩ := h.cacheSize
    rw [ofEnvironment, (outcome_readLimit env _ _).eq_ok_iff.2 hsize,
      (outcome_readSwitch env _).eq_ok_iff.2 h.useJit,
      (outcome_readLimit env _ _).eq_ok_iff.2 h.matchLimit,
      (outcome_readLimit env _ _).eq_ok_iff.2 h.depthLimit,
      (outcome_readLimit env _ _).eq_ok_iff.2 h.heapLimit,
      (reads_readPath env).eq_of_agree h.libraryPath rfl]
    simp only [ok_bind, ← hcacheSize]
    rfl

theorem ReadsEach.not_invalid (h : ReadsEach env c) : ∀ check ∈ checks, ¬Invalid env check := by
  obtain ⟨size, hsize, -⟩ := h.cacheSize
  simp only [checks, List.forall_mem_cons]
  exact ⟨hsize.not_invalid, h.useJit.not_invalid, h.matchLimit.not_invalid, h.depthLimit.not_invalid,
    h.heapLimit.not_invalid, fun _ h => absurd h List.not_mem_nil⟩

/-- Each setting depends on its own variable only. -/
theorem ReadsEach.sameOnAgreement (h : ReadsEach env c) (h' : ReadsEach env' c') :
    SameOnAgreement env env' c c' where
  libraryPath := h.libraryPath.eq_of_agree h'.libraryPath
  useJit := h.useJit.eq_of_agree h'.useJit
  matchLimit := h.matchLimit.eq_of_agree h'.matchLimit
  depthLimit := h.depthLimit.eq_of_agree h'.depthLimit
  heapLimit := h.heapLimit.eq_of_agree h'.heapLimit
  cacheSize hagree := by
    obtain ⟨size, hsize, heq⟩ := h.cacheSize
    obtain ⟨size', hsize', heq'⟩ := h'.cacheSize
    rw [heq, heq', hsize.eq_of_agree hsize' hagree]

/-- The first variable that is invalid is reported. -/
theorem isFirst_of_ofEnvironment (h : ofEnvironment env = .error f) :
    ∃ check, IsFirst (Invalid env) checks check ∧ f.variable = check.1 := by
  refine (outcome_readLimit env _ _).isFirst_of_bind h fun _ h => ?_
  refine (outcome_readSwitch env _).isFirst_of_bind h fun _ h => ?_
  refine (outcome_readLimit env _ _).isFirst_of_bind h fun _ h => ?_
  refine (outcome_readLimit env _ _).isFirst_of_bind h fun _ h => ?_
  exact (outcome_readLimit env _ _).isFirst_of_bind h nofun

/-- Reading fails exactly if some variable does not pass its check. -/
theorem exists_ofEnvironment_eq_error_iff :
    (∃ f, ofEnvironment env = .error f) ↔ ∃ check ∈ checks, Invalid env check := by
  constructor
  · rintro ⟨f, h⟩
    obtain ⟨check, hfirst, -⟩ := isFirst_of_ofEnvironment h
    exact ⟨check, hfirst.mem, hfirst.holds⟩
  · rintro ⟨check, hmem, hinvalid⟩
    cases h : ofEnvironment env with
    | error f => exact ⟨f, rfl⟩
    | ok c => exact absurd hinvalid ((ofEnvironment_eq_ok_iff.1 h).not_invalid check hmem)

/-! ## Settings that are written -/

/-- How a limit is written: in decimal notation, and not at all or as blanks if there is none. -/
inductive WrittenLimit : Option Int → Option String → Prop
  | unset : WrittenLimit none none
  | blank {value : String} (h : Blank value) : WrittenLimit none (some value)
  | number (n : Int) : WrittenLimit (some n) (some (toString n))

structure Written (env : Environment) (c : Config) : Prop where
  libraryPath : env.get? libraryPathVariable = c.libraryPath
  useJit : env.get? useJitVariable = some (if c.useJit then "on" else "off")
  matchLimit : WrittenLimit c.matchLimit (env.get? matchLimitVariable)
  depthLimit : WrittenLimit c.depthLimit (env.get? depthLimitVariable)
  heapLimit : WrittenLimit c.heapLimit (env.get? heapLimitVariable)
  cacheSize : env.get? cacheSizeVariable = some (toString c.cacheSize)

/-- A number of ten digits does not have more digits than are read. -/
theorem lt_ten_pow_digitLimit (h : n < 10 ^ 10) : n < 10 ^ Text.digitLimit :=
  h.trans_le (pow_le_pow_right₀ (by decide) (by decide))

theorem reads_of_writtenLimit (h : WrittenLimit limit (env.get? name))
    (hlimit : ∀ n ∈ limit, 1 ≤ n ∧ n ≤ 4294967295) :
    (limitSetting name (some largestLimit)).Reads env limit := by
  generalize hvalue : env.get? name = value? at h
  cases h with
  | unset => exact .unset hvalue
  | blank h => exact .set hvalue (.blank h)
  | number n =>
    obtain ⟨hpos, hle⟩ := hlimit n rfl
    have hnumeral := Text.numeral_toString (by omega) (lt_ten_pow_digitLimit (n := n) (by omega))
    refine .set hvalue (.number hnumeral (by omega) ?_)
    rintro m ⟨⟩
    exact hle

theorem meansSwitch_written (b : Bool) : MeansSwitch (if b then "on" else "off") b := by
  cases b with
  | false => exact meansSwitch_iff.2 (by decide)
  | true => exact meansSwitch_iff.2 (by decide)

theorem reads_pathSetting (h : env.get? libraryPathVariable = path) (hpath : path ≠ some "") :
    pathSetting.Reads env path := by
  cases path with
  | none => exact .unset h
  | some value => exact .set h (.path (by simpa using hpath))

/-- Settings are read back from an environment that they are written to. -/
theorem Written.readsEach (h : Written env c) (hc : c.Accepted)
    (hsize : c.cacheSize < 10 ^ Text.digitLimit) : ReadsEach env c where
  libraryPath := reads_pathSetting h.libraryPath hc.libraryPath
  useJit := .set h.useJit (meansSwitch_written c.useJit)
  matchLimit := reads_of_writtenLimit h.matchLimit hc.matchLimit
  depthLimit := reads_of_writtenLimit h.depthLimit hc.depthLimit
  heapLimit := reads_of_writtenLimit h.heapLimit hc.heapLimit
  cacheSize := by
    have hpos := hc.cacheSize
    refine ⟨some c.cacheSize, .set h.cacheSize (.number ?_ (by omega) nofun), rfl⟩
    exact Text.numeral_toString (by omega) hsize

/-- **Each setting is read from its own variable.** Reading fails exactly if a variable is invalid, and
what is said then begins with the first one. What is read otherwise is what the variables mean, one by
one, and settings of two environments differ only where their variables do. Accepted settings that are
written out are read back, unless the size of the cache has more digits than are read. -/
theorem ofEnvironment_reads_each_variable :
    (∀ env, (∃ f, ofEnvironment env = .error f) ↔ ∃ check ∈ checks, Invalid env check) ∧
    (∀ env f, ofEnvironment env = .error f →
      ∃ check rest, IsFirst (Invalid env) checks check ∧ f.message = check.1 ++ rest) ∧
    (∀ env c, ofEnvironment env = .ok c ↔ ReadsEach env c) ∧
    (∀ env env' c c', ofEnvironment env = .ok c → ofEnvironment env' = .ok c' →
      SameOnAgreement env env' c c') ∧
    ∀ env c, c.Accepted → c.cacheSize < 10 ^ 4300 → Written env c → ofEnvironment env = .ok c := by
  refine ⟨fun env => exists_ofEnvironment_eq_error_iff, fun env f h => ?_,
    fun env c => ofEnvironment_eq_ok_iff, fun env env' c c' h h' => ?_, fun env c hc hsize h => ?_⟩
  · obtain ⟨check, hfirst, hvariable⟩ := isFirst_of_ofEnvironment h
    obtain ⟨rest, hmessage⟩ := f.exists_message_eq
    exact ⟨check, rest, hfirst, hvariable ▸ hmessage⟩
  · exact (ofEnvironment_eq_ok_iff.1 h).sameOnAgreement (ofEnvironment_eq_ok_iff.1 h')
  · exact ofEnvironment_eq_ok_iff.2 (h.readsEach hc hsize)

/-- Of a switch and a size of the cache that are both invalid the size is reported. Settings with one limit
as large as may be, one that is written as blanks and one that is not written are read back. -/
theorem ofEnvironment_reads_written_limits :
    let env : Environment := ⟨[(useJitVariable, "maybe"), (cacheSizeVariable, "0")]⟩
    let c : Config :=
      { libraryPath := some "/opt/lib", useJit := false, matchLimit := some 4294967295,
        cacheSize := 5000000000 }
    let env' : Environment :=
      ⟨[(libraryPathVariable, "/opt/lib"), (useJitVariable, "off"), (matchLimitVariable, "4294967295"),
        (depthLimitVariable, " \t"), (cacheSizeVariable, "5000000000")]⟩
    (∃ check ∈ checks, Invalid env check) ∧
      (∃ check rest, IsFirst (Invalid env) checks check ∧
        "HLREGEX_CACHE_SIZE must be positive, got 0" = check.1 ++ rest) ∧
      c.Accepted ∧ Written env' c ∧ ofEnvironment env' = .ok c := by
  intro env c env'
  obtain ⟨hfails, hfirst, -, -, hwritten⟩ := ofEnvironment_reads_each_variable
  have herror : ofEnvironment env = .error (.notPositive cacheSizeVariable 0) := rfl
  have hc : c.Accepted := by
    constructor <;> simp [c]
  have hblank : Blank " \t" := blank_iff.2 rfl
  have h : Written env' c := ⟨rfl, rfl, .number 4294967295, .blank hblank, .unset, rfl⟩
  have hsize : c.cacheSize < 10 ^ 4300 := lt_ten_pow_digitLimit (by decide)
  exact ⟨(hfails env).1 ⟨_, herror⟩, hfirst env _ herror, hc, h, hwritten env' c hc hsize h⟩

end Config

end RuleRegex
