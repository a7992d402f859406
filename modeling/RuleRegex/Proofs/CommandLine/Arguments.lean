import RuleRegex.CommandLine.Command
import RuleRegex.Proofs.Except

/-!
# Reading a command line

A command line that names a command, gives it one argument and then spells options is read as it is meant,
in whatever order the options stand.

## Main definitions

* `CommandLine.Positional` — a word that cannot be taken for an option.
* `Form.Spells` — words that spell options.
-/

namespace RuleRegex

namespace CommandLine

/-- A word that cannot be taken for an option, since it does not begin with a hyphen. -/
def Positional (w : String) : Prop := w.toList.head? ≠ some '-'

instance (w : String) : Decidable (Positional w) :=
  inferInstanceAs (Decidable (w.toList.head? ≠ some '-'))

theorem Positional.ne_marker {w : String} (h : Positional w) : w ≠ "--" := by
  rintro rfl
  exact absurd h (by decide)

namespace Form

variable {f : Form} {w name argument : String} {ws : List String} {word : Word} {words : List Word}
  {a b : Arguments} {o : OptionForm} {attached : Option String} {fuel : Nat}
  {given : List (OptionForm × Option String)}

/-! ## What words are -/

theorem role_of_positional (f : Form) (h : Positional w) : f.role w = .ok .value := by
  have hhead : ∀ rest, w.toList ≠ '-' :: rest := fun rest hw => h (by rw [hw]; rfl)
  cases hw : w.toList with
  | nil => simp only [role, hw]
  | cons c rest =>
    have hc : c ≠ '-' := fun hc => hhead rest (by rw [hw, hc])
    simp only [role, hw]
    split
    · next heq => exact absurd (List.cons.inj heq).1 hc
    · rfl

theorem role_of_name {second : Char} {rest : List Char} (hw : w.toList = '-' :: second :: rest)
    (h : f.allNames.lookup w = some o) : f.role w = .ok (.option o w none) := by
  simp only [role, hw, h]

theorem classify_cons {r : Role} (hw : w ≠ "--") (hr : f.role w = .ok r)
    (hws : f.classify ws = .ok words) : f.classify (w :: ws) = .ok (⟨w, r⟩ :: words) := by
  rw [classify, if_neg hw, hr, hws]
  rfl

theorem classify_cons_positional (h : Positional w) (hws : f.classify ws = .ok words) :
    f.classify (w :: ws) = .ok (⟨w, .value⟩ :: words) :=
  classify_cons h.ne_marker (f.role_of_positional h) hws

/-- Words can be classified if each of them can, without the marker. -/
theorem exists_classify (h : ∀ w ∈ ws, w ≠ "--" ∧ (f.role w).isOk = true) :
    ∃ words, f.classify ws = .ok words := by
  induction ws with
  | nil => exact ⟨[], rfl⟩
  | cons w ws ih =>
    rw [List.forall_mem_cons] at h
    obtain ⟨⟨hmarker, hrole⟩, hws⟩ := h
    obtain ⟨words, hwords⟩ := ih hws
    cases hr : f.role w with
    | error e => simp [hr, Except.isOk, Except.toBool] at hrole
    | ok r => exact ⟨_, classify_cons hmarker hr hwords⟩

/-- The words are kept, whatever they are taken for. -/
theorem texts_of_classify (h : f.classify ws = .ok words) : words.map (·.text) = ws := by
  induction ws generalizing words with
  | nil =>
    cases h
    rfl
  | cons w ws ih =>
    rw [classify] at h
    split at h
    · cases h
      simp [Function.comp_def]
    · obtain ⟨r, -, h⟩ := bind_eq_ok_iff.1 h
      obtain ⟨rest, hrest, h⟩ := bind_eq_ok_iff.1 h
      cases h
      rw [List.map_cons, ih hrest]

/-! ## Taking words -/

theorem takeAll_nil (h : f.positionals.length ≤ a.positionals.length) :
    f.takeAll fuel a [] = .ok a := by
  cases fuel with
  | zero => rfl
  | succ fuel =>
    have htake : f.takePositionals a [] = .ok (a, []) := by
      simp [takePositionals, List.drop_eq_nil_of_le h, takeSlots]
      rfl
    simp only [takeAll, List.any_nil, Bool.false_eq_true, if_false, htake, ok_bind]
    simp [pure, Except.pure]

theorem takeAll_option {rest : List Word} (hw : word.role = .option o name attached)
    (hb : f.takeOption a o name attached words = .ok (b, rest)) :
    f.takeAll (fuel + 1) a (word :: words) = f.takeAll fuel b rest := by
  have hoption : word.isOption = true := by rw [Word.isOption, hw]
  simp [takeAll, hoption, hw, hb, ok_bind]

/-- A flag takes no further word. -/
theorem takeOption_flag (hchoices : o.choices = none) (hhelp : o ≠ helpOption) :
    f.takeOption a o name none words = .ok ({ a with given := a.given ++ [(o, none)] }, words) := by
  simp only [takeOption, hchoices, Arguments.give, if_neg hhelp]
  rfl

/-- An option with choices takes the word behind it, which is one of them. -/
theorem takeOption_choice {choices : List String} (hchoices : o.choices = some choices)
    (hhelp : o ≠ helpOption) (hword : word.role = .value) (hmarker : word.text ≠ "--")
    (hmem : word.text ∈ choices) :
    f.takeOption a o name none (word :: words) =
      .ok ({ a with given := a.given ++ [(o, some word.text)] }, words) := by
  simp only [takeOption, hchoices, Arguments.giveValue, Arguments.give, if_pos hword, if_neg hmarker,
    if_pos hmem, if_neg hhelp]
  rfl

/-- One positional argument is one word, if an option or nothing follows. -/
theorem takePositionals_single (hf : f.positionals = [argument]) (hrest : f.takesRest = false)
    (hword : word.role = .value) (hmarker : word.text ≠ "--")
    (hwords : ∀ next ∈ words.head?, next.isOption = true) (ha : a.positionals = []) :
    f.takePositionals a (word :: words) = .ok ({ a with positionals := [[word.text]] }, words) := by
  have hafter : words.takeWhile (·.role = .marker) = [] := by
    cases words with
    | nil => rfl
    | cons next words =>
      have hnext := hwords next rfl
      have hrole : next.role ≠ .marker := by
        intro h
        simp [Word.isOption, h] at hnext
      exact List.takeWhile_cons_of_neg (by simpa using hrole)
  have hone : takeOne? (word :: words) = some ([word], words) := by
    simp [takeOne?, hword, Word.isOption, hafter]
  have hvalue : slotValue false [word] = .ok [word.text] := by
    simp [slotValue, hmarker]
  simp [takePositionals, hf, hrest, ha, takeSlots, hone, hvalue, ok_bind, pure, Except.pure]

/-- After the positional arguments, taking goes on with the option that follows them, if there is one. -/
theorem takeAll_positionals {rest : List Word} (hword : word.isOption = false) (hrest : rest <:+ words)
    (hhead : ∀ next ∈ rest.head?, next.isOption = true)
    (hb : f.positionals.length ≤ b.positionals.length)
    (htake : f.takePositionals a (word :: words) = .ok (b, rest)) :
    f.takeAll (fuel + 1) a (word :: words) = f.takeAll fuel b rest := by
  by_cases hoption : (word :: words).any Word.isOption = true
  · have hbefore : ((word :: words).takeWhile (!·.isOption)).isEmpty = false := by simp [hword]
    have hlength : rest.length < (word :: words).length := Nat.lt_succ_of_le hrest.length_le
    simp only [takeAll, hoption, if_true, hbefore, Bool.false_eq_true, if_false, htake, ok_bind,
      if_pos hlength]
  · -- What is left begins with an option or is empty, and there is no option.
    have hnil : rest = [] := by
      cases rest with
      | nil => rfl
      | cons next rest =>
        have hnext : next ∈ word :: words := List.mem_cons_of_mem _ (hrest.subset List.mem_cons_self)
        exact absurd (List.any_eq_true.2 ⟨next, hnext, hhead next rfl⟩) hoption
    subst hnil
    rw [takeAll_nil hb, takeAll, if_neg hoption, htake, ok_bind]
    simp only [List.map_nil, List.append_nil]
    rfl

theorem read_of_takeAll (hclass : f.classify ws = .ok words)
    (htake : f.takeAll (words.length + 1) {} words = .ok a)
    (ha : f.positionals.length ≤ a.positionals.length) : f.read ws = .ok a := by
  simp only [read, hclass, htake, ok_bind, List.drop_eq_nil_of_le ha]
  rfl

/-! ## Spelled options -/

/-- Words that spell options, one after the other, and what they give: a flag, or an option and then one
of the values it offers. -/
inductive Spells (f : Form) : List String → List (OptionForm × Option String) → Prop
  | nil : Spells f [] []
  | flag {word name : String} {o : OptionForm} {ws : List String}
      {given : List (OptionForm × Option String)} (hword : word ≠ "--")
      (hrole : f.role word = .ok (.option o name none)) (hhelp : o ≠ helpOption)
      (hchoices : o.choices = none) (hws : Spells f ws given) :
      Spells f (word :: ws) ((o, none) :: given)
  | choice {word name value : String} {o : OptionForm} {choices ws : List String}
      {given : List (OptionForm × Option String)} (hword : word ≠ "--")
      (hrole : f.role word = .ok (.option o name none)) (hhelp : o ≠ helpOption)
      (hchoices : o.choices = some choices) (hvalue : Positional value) (hmem : value ∈ choices)
      (hws : Spells f ws given) : Spells f (word :: value :: ws) ((o, some value) :: given)

/-- Spelled options can stand one after the other. -/
theorem Spells.append {vs ws : List String} {given given' : List (OptionForm × Option String)}
    (hvs : f.Spells vs given) (hws : f.Spells ws given') : f.Spells (vs ++ ws) (given ++ given') := by
  induction hvs with
  | nil => exact hws
  | flag hword hrole hhelp hchoices _ ih => exact .flag hword hrole hhelp hchoices ih
  | choice hword hrole hhelp hchoices hvalue hmem _ ih =>
    exact .choice hword hrole hhelp hchoices hvalue hmem ih

/-- Spelled options are classified as such, and when all positional arguments are there, taking the
words gives them. -/
theorem Spells.exists_classify (h : f.Spells ws given) :
    ∃ words, f.classify ws = .ok words ∧ (∀ next ∈ words.head?, next.isOption = true) ∧
      ∀ (fuel : Nat) (a : Arguments), words.length ≤ fuel →
        f.positionals.length ≤ a.positionals.length →
        f.takeAll fuel a words = .ok { a with given := a.given ++ given } := by
  induction h with
  | nil => exact ⟨[], rfl, by simp, fun fuel a _ ha => by rw [takeAll_nil ha, List.append_nil]⟩
  | @flag _ _ o _ _ hword hrole hhelp hchoices _ ih =>
    obtain ⟨words, hclass, -, htake⟩ := ih
    refine ⟨_, classify_cons hword hrole hclass, by simp [Word.isOption], fun fuel a hfuel ha => ?_⟩
    obtain ⟨fuel, rfl⟩ := Nat.exists_eq_add_one_of_ne_zero (Nat.ne_zero_of_lt hfuel)
    have hrest := htake fuel { a with given := a.given ++ [(o, none)] }
      (Nat.le_of_succ_le_succ hfuel) ha
    rw [takeAll_option rfl (takeOption_flag hchoices hhelp), hrest, List.append_assoc,
      List.singleton_append]
  | @choice _ _ value o _ _ _ hword hrole hhelp hchoices hvalue hmem _ ih =>
    obtain ⟨words, hclass, -, htake⟩ := ih
    refine ⟨_, classify_cons hword hrole (classify_cons_positional hvalue hclass),
      by simp [Word.isOption], fun fuel a hfuel ha => ?_⟩
    obtain ⟨fuel, rfl⟩ := Nat.exists_eq_add_one_of_ne_zero (Nat.ne_zero_of_lt hfuel)
    have hrest := htake fuel { a with given := a.given ++ [(o, some value)] }
      (Nat.le_of_succ_le (Nat.le_of_succ_le_succ hfuel)) ha
    rw [takeAll_option rfl (takeOption_choice hchoices hhelp rfl hvalue.ne_marker hmem), hrest,
      List.append_assoc, List.singleton_append]

/-- **A word and then spelled options are read as they are meant** by a form of one positional
argument. -/
theorem read_of_spells (hf : f.positionals = [argument]) (hrest : f.takesRest = false)
    (hw : Positional w) (h : f.Spells ws given) :
    f.read (w :: ws) = .ok { given := given, positionals := [[w]] } := by
  obtain ⟨words, hclass, hhead, htake⟩ := h.exists_classify
  let word : Word := ⟨w, .value⟩
  have hfull : f.positionals.length ≤ [[w]].length := by rw [hf]; exact Nat.le_refl 1
  have hfirst : f.takePositionals {} (word :: words) = .ok ({ positionals := [[w]] }, words) :=
    takePositionals_single hf hrest rfl hw.ne_marker hhead rfl
  have hall : f.takeAll (words.length + 1 + 1) {} (word :: words) =
      .ok { given := given, positionals := [[w]] } :=
    (takeAll_positionals rfl (List.suffix_refl words) hhead hfull hfirst).trans
      (htake (words.length + 1) { positionals := [[w]] } (Nat.le_succ _) hfull)
  exact read_of_takeAll (classify_cons_positional hw hclass) hall hfull

/-- **All words are one argument** of a form whose one positional argument takes the rest. -/
theorem read_of_takesRest (hf : f.positionals = [argument]) (hrest : f.takesRest = true)
    (hw : Positional w) (h : f.classify ws = .ok words) :
    f.read (w :: ws) = .ok { positionals := [w :: ws] } := by
  have hfull : f.positionals.length ≤ [w :: ws].length := by rw [hf]; exact Nat.le_refl 1
  -- The pairs of hyphens right after the first word are taken with it, so the rest is split there.
  have hsplit : words.takeWhile (·.role = .marker) ++
      words.drop (words.takeWhile (·.role = .marker)).length = words :=
    List.prefix_iff_eq_append.1 (List.takeWhile_prefix _)
  have hone : takeOne? (⟨w, .value⟩ :: words) =
      some (⟨w, .value⟩ :: words.takeWhile (·.role = .marker),
        words.drop (words.takeWhile (·.role = .marker)).length) := by
    simp [takeOne?, Word.isOption]
  have hslots : takeSlots true [argument] (⟨w, .value⟩ :: words) =
      ([⟨w, .value⟩ :: words], []) := by
    simp [takeSlots, hone, hsplit]
  have hfirst : f.takePositionals {} (⟨w, .value⟩ :: words) =
      .ok ({ positionals := [w :: ws] }, []) := by
    have htexts := texts_of_classify h
    simp [takePositionals, hf, hrest, hslots, slotValue, htexts, ok_bind, pure, Except.pure]
  have hall : f.takeAll (words.length + 1 + 1) {} (⟨w, .value⟩ :: words) =
      .ok { positionals := [w :: ws] } :=
    (takeAll_positionals rfl List.nil_suffix (by simp) hfull hfirst).trans (takeAll_nil hfull)
  exact read_of_takeAll (classify_cons_positional hw h) hall hfull

end Form

/-! ## Requests -/

/-- **The words after the name of a command are read by the form of the command.** -/
theorem Request.read_command {name : String} {ws : List String} {words : List Word} {form : Form}
    {a : Arguments} {command : Command} (hname : Positional name)
    (hclass : programForm.classify ws = .ok words) (hform : commandForms.lookup name = some form)
    (hread : form.read ws = .ok a) (hall : a.unrecognized = [])
    (hcommand : Command.ofArguments? name a = some command) :
    Request.read (name :: ws) = .ok ⟨command, false⟩ := by
  have hprogram : programForm.read (name :: ws) = .ok { positionals := [name :: ws] } :=
    Form.read_of_takesRest rfl rfl hname hclass
  refine bind_eq_ok_iff.2 ⟨{ positionals := [name :: ws] }, by rw [hprogram]; rfl, ?_⟩
  simp only [List.flatten_cons, List.flatten_nil, List.append_nil, hform]
  refine bind_eq_ok_iff.2 ⟨a, by rw [hread]; rfl, ?_⟩
  simp only [hall, hcommand]
  rfl

end CommandLine

end RuleRegex
