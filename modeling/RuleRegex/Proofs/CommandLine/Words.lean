import RuleRegex.Proofs.CommandLine.Arguments

/-!
# The words of a command line

Every word is looked at once and in order: it becomes part of a positional argument, or it belongs to an
option, or it fits nowhere. So the positional arguments are words of the command line in their order, and
where they are all its words no option is given. What options were given before does not matter to the
words that follow. Two words after the name of the command for matching are the pattern and the subject.

## Main definitions

* `Form.Takes` — how arguments come from earlier ones and some words.
* `Arguments.after` — arguments with options given before them.
-/

namespace RuleRegex

namespace CommandLine

def Arguments.after (given : List (OptionForm × Option String)) (a : Arguments) : Arguments :=
  { a with given := given ++ a.given }

namespace Form

variable {f : Form} {ws taken rest words more : List Word} {a b c : Arguments} {fuel : Nat}
  {texts : List String} {o : OptionForm} {name : String} {attached : Option String}
  {given : List (OptionForm × Option String)}

/-! ## One step -/

/-- The arguments after all words, the first of which is no positional argument. -/
def takeNext (f : Form) (fuel : Nat) (a : Arguments) : List Word → Except UsageFault Arguments
  | [] => .ok a
  | w :: rest =>
    match w.role with
    | .option o name attached => do
      let (a, rest) ← f.takeOption a o name attached rest
      f.takeAll fuel a rest
    | _ => f.takeAll fuel { a with unrecognized := a.unrecognized ++ [w.text] } rest

theorem takeAll_succ (f : Form) (fuel : Nat) (a : Arguments) (ws : List Word) :
    f.takeAll (fuel + 1) a ws =
      if ws.any Word.isOption then
        let before := ws.takeWhile (!·.isOption)
        if before.isEmpty then f.takeNext fuel a ws
        else do
          let (b, rest) ← f.takePositionals a ws
          if rest.length < ws.length then f.takeAll fuel b rest
          else
            f.takeNext fuel { a with unrecognized := a.unrecognized ++ before.map (·.text) }
              (ws.drop before.length)
      else do
        let (b, rest) ← f.takePositionals a ws
        return { b with unrecognized := b.unrecognized ++ rest.map (·.text) } := by
  rfl

/-! ## Positional arguments -/

/-- Arguments come from earlier ones and some words: the words that become positional arguments are among
them in their order, and if they all do, no option is given. -/
def Takes (a : Arguments) (ws : List Word) (b : Arguments) : Prop :=
  ∃ texts : List String, texts.Sublist (ws.map (·.text)) ∧
    b.positionals.flatten = a.positionals.flatten ++ texts ∧
    (texts.length = ws.length → b.given = a.given)

/-- Words that become no positional argument. -/
theorem Takes.of_positionals_eq (h : b.positionals = a.positionals)
    (hgiven : ws = [] → b.given = a.given) : Takes a ws b := by
  refine ⟨[], List.nil_sublist _, by simp [h], fun hlength => hgiven ?_⟩
  exact List.length_eq_zero_iff.1 hlength.symm

theorem Takes.unrecognized (a : Arguments) (ws : List Word) (texts : List String) :
    Takes a ws { a with unrecognized := texts } :=
  .of_positionals_eq rfl fun _ => rfl

/-- What is taken from words one after the other is taken from all of them. -/
theorem Takes.trans (h : Takes a ws b) (h' : Takes b more c) : Takes a (ws ++ more) c := by
  obtain ⟨texts, hsub, hflat, hgiven⟩ := h
  obtain ⟨texts', hsub', hflat', hgiven'⟩ := h'
  refine ⟨texts ++ texts', ?_, by rw [hflat', hflat, List.append_assoc], fun hlength => ?_⟩
  · rw [List.map_append]
    exact hsub.append hsub'
  · -- Neither part has more of them than words, so each has as many.
    have hle := hsub.length_le
    have hle' := hsub'.length_le
    simp only [List.length_map, List.length_append] at hle hle' hlength
    rw [hgiven' (by omega), hgiven (by omega)]

/-- What is taken and what is left are the words that there were. -/
theorem takeOne?_eq_some (h : takeOne? ws = some (taken, rest)) : taken ++ rest = ws := by
  unfold takeOne? at h
  split at h
  · cases h
  · next w more hdrop =>
    split at h
    · cases h
    · cases h
      have hmore : more.takeWhile (·.role = .marker) ++
          more.drop (more.takeWhile (·.role = .marker)).length = more :=
        List.prefix_iff_eq_append.1 (List.takeWhile_prefix _)
      rw [List.append_assoc, List.cons_append, hmore, ← hdrop, List.takeWhile_append_dropWhile]

/-- The words of the positional arguments and those that follow them are all the words. -/
theorem flatten_takeSlots (takesRest : Bool) (slots : List String) (ws : List Word) :
    (takeSlots takesRest slots ws).1.flatten ++ (takeSlots takesRest slots ws).2 = ws := by
  induction slots generalizing ws with
  | nil => simp [takeSlots]
  | cons slot slots ih =>
    rw [takeSlots]
    split
    · rfl
    · next taken rest hone =>
      have hws := takeOne?_eq_some hone
      split
      · simpa using hws
      · simpa [ih] using hws

theorem sublist_of_slotValue {takesRest : Bool} (h : slotValue takesRest taken = .ok texts) :
    texts.Sublist (taken.map (·.text)) := by
  simp only [slotValue] at h
  split at h
  · cases h
    exact List.Sublist.refl _
  · split at h
    · cases h
    · cases h
      exact List.erase_sublist

theorem sublist_of_slotValues {takesRest : Bool} {slots : List (List Word)} {values : List (List String)}
    (h : slots.mapM (slotValue takesRest) = .ok values) :
    values.flatten.Sublist (slots.flatten.map (·.text)) := by
  induction slots generalizing values with
  | nil =>
    cases h
    exact List.Sublist.refl _
  | cons taken slots ih =>
    rw [List.mapM_cons] at h
    obtain ⟨texts, htexts, h⟩ := bind_eq_ok_iff.1 h
    obtain ⟨more, hmore, h⟩ := bind_eq_ok_iff.1 h
    cases h
    rw [List.flatten_cons, List.flatten_cons, List.map_append]
    exact (sublist_of_slotValue htexts).append (ih hmore)

/-- Positional arguments are taken from the start of the words. -/
theorem takes_of_takePositionals (h : f.takePositionals a ws = .ok (b, rest)) :
    ∃ taken, ws = taken ++ rest ∧ Takes a taken b := by
  obtain ⟨values, hvalues, h⟩ := bind_eq_ok_iff.1 h
  cases h
  have hws := flatten_takeSlots f.takesRest (f.positionals.drop a.positionals.length) ws
  refine ⟨_, hws.symm, values.flatten, sublist_of_slotValues hvalues, by simp, fun _ => rfl⟩

/-! ## Options -/

/-- Giving an option leaves the positional arguments alone. -/
theorem positionals_of_give {value : Option String} (h : a.give o value = .ok b) :
    b.positionals = a.positionals := by
  unfold Arguments.give at h
  split at h
  · cases h
  · cases h
    rfl

theorem positionals_of_giveValue {choices : List String} {value : String}
    (h : a.giveValue o choices value = .ok b) : b.positionals = a.positionals := by
  unfold Arguments.giveValue at h
  split at h
  · cases h
  · split at h
    · exact positionals_of_give h
    · cases h

theorem positionals_of_giveAll
    (h : given.foldlM (fun (a : Arguments) pair => a.give pair.1 pair.2) a = .ok b) :
    b.positionals = a.positionals := by
  induction given generalizing a with
  | nil =>
    cases h
    rfl
  | cons pair given ih =>
    rw [List.foldlM_cons] at h
    obtain ⟨c, hc, h⟩ := bind_eq_ok_iff.1 h
    rw [ih h, positionals_of_give hc]

/-- An option changes no positional argument, and the words that are left follow it. -/
theorem of_takeOption (h : f.takeOption a o name attached ws = .ok (b, rest)) :
    b.positionals = a.positionals ∧ rest <:+ ws := by
  have hvalue {choices : List String} {value : String} {words : List Word}
      (h : (a.giveValue o choices value).map (·, words) = .ok (b, rest)) :
      b.positionals = a.positionals ∧ rest = words := by
    obtain ⟨c, hc, heq⟩ := map_eq_ok_iff.1 h
    cases heq
    exact ⟨positionals_of_giveValue hc, rfl⟩
  unfold takeOption at h
  split at h
  · obtain ⟨hb, rfl⟩ := hvalue h
    exact ⟨hb, List.suffix_refl _⟩
  · split at h
    · split at h
      · obtain ⟨hb, rfl⟩ := hvalue h
        exact ⟨hb, List.suffix_cons _ _⟩
      · cases h
    · cases h
  · obtain ⟨c, hc, heq⟩ := map_eq_ok_iff.1 h
    cases heq
    exact ⟨positionals_of_give hc, List.suffix_refl _⟩
  · split at h
    · cases h
    · obtain ⟨several, -, h⟩ := bind_eq_ok_iff.1 h
      obtain ⟨c, hc, h⟩ := bind_eq_ok_iff.1 h
      cases h
      exact ⟨positionals_of_giveAll hc, List.suffix_refl _⟩

/-! ## All words -/

/-- What holds of the words that are left holds of them and the one before them. -/
theorem takes_of_takeNext (ih : ∀ {a ws b}, f.takeAll fuel a ws = .ok b → Takes a ws b)
    (h : f.takeNext fuel a ws = .ok b) : Takes a ws b := by
  cases ws with
  | nil =>
    cases h
    exact .of_positionals_eq rfl fun _ => rfl
  | cons w ws =>
    rw [takeNext] at h
    split at h
    · obtain ⟨⟨c, rest⟩, hoption, hnext⟩ := bind_eq_ok_iff.1 h
      obtain ⟨hc, skipped, rfl⟩ := of_takeOption hoption
      have hfirst : Takes a (w :: skipped) c := .of_positionals_eq hc (by simp)
      exact hfirst.trans (ih hnext)
    · exact (Takes.unrecognized a [w] _).trans (ih h)

theorem takes_of_takeAll (h : f.takeAll fuel a ws = .ok b) : Takes a ws b := by
  induction fuel generalizing a ws b with
  | zero =>
    cases h
    exact .of_positionals_eq rfl fun _ => rfl
  | succ fuel ih =>
    rw [takeAll_succ] at h
    simp only at h
    split at h
    · split at h
      · exact takes_of_takeNext ih h
      · obtain ⟨⟨c, rest⟩, hpositionals, hnext⟩ := bind_eq_ok_iff.1 h
        split at hnext
        · obtain ⟨taken, rfl, hfirst⟩ := takes_of_takePositionals hpositionals
          exact hfirst.trans (ih hnext)
        · have hws : ws.takeWhile (!·.isOption) ++ ws.drop (ws.takeWhile (!·.isOption)).length = ws :=
            List.prefix_iff_eq_append.1 (List.takeWhile_prefix _)
          exact hws ▸ (Takes.unrecognized a _ _).trans (takes_of_takeNext ih hnext)
    · obtain ⟨⟨c, rest⟩, hpositionals, hlast⟩ := bind_eq_ok_iff.1 h
      cases hlast
      obtain ⟨taken, rfl, hfirst⟩ := takes_of_takePositionals hpositionals
      exact hfirst.trans (Takes.unrecognized c rest _)

/-- **The positional arguments are words of the command line in their order**, and if they are all its
words, no option is given. -/
theorem sublist_of_read {ws : List String} (h : f.read ws = .ok a) :
    a.positionals.flatten.Sublist ws ∧ (a.positionals.flatten.length = ws.length → a.given = []) := by
  obtain ⟨words, hwords, h⟩ := bind_eq_ok_iff.1 h
  obtain ⟨b, hb, h⟩ := bind_eq_ok_iff.1 h
  obtain rfl : b = a := by
    simp only at h
    split at h <;> cases h
    rfl
  obtain ⟨texts, hsub, hflat, hgiven⟩ := takes_of_takeAll hb
  rw [← texts_of_classify hwords]
  simp only [List.flatten_nil, List.nil_append] at hflat
  rw [hflat]
  exact ⟨hsub, fun hlength => hgiven (by simpa using hlength)⟩

/-! ## Options given before -/

end Form

/-! ## Requests -/

/-- What follows a word that is no option can be classified, if all of it can be read. -/
theorem Form.exists_classify_of_read {f : Form} {a : Arguments} {w : String} {ws : List String}
    (hw : Positional w) (h : f.read (w :: ws) = .ok a) : ∃ words, f.classify ws = .ok words := by
  obtain ⟨words, hwords, -⟩ := bind_eq_ok_iff.1 h
  rw [classify, if_neg hw.ne_marker] at hwords
  obtain ⟨r, -, hwords⟩ := bind_eq_ok_iff.1 hwords
  obtain ⟨words, hwords, -⟩ := bind_eq_ok_iff.1 hwords
  exact ⟨words, hwords⟩

/-- A request comes from what the form of its command reads in the words after the name. -/
theorem Request.exists_of_read_command {name : String} {ws : List String} {form : Form} {r : Request}
    (hname : Positional name) (hform : commandForms.lookup name = some form)
    (h : Request.read (name :: ws) = .ok r) :
    ∃ a, form.read ws = .ok a ∧ Command.ofArguments? name a = some r.command ∧ r.verbose = false := by
  obtain ⟨a, ha, h⟩ := bind_eq_ok_iff.1 h
  rw [mapError_eq_ok_iff] at ha
  obtain ⟨words, hclass⟩ := Form.exists_classify_of_read hname ha
  cases ha.symm.trans (Form.read_of_takesRest rfl rfl hname hclass)
  simp only [List.flatten_cons, List.flatten_nil, List.append_nil, hform] at h
  obtain ⟨b, hb, h⟩ := bind_eq_ok_iff.1 h
  rw [mapError_eq_ok_iff] at hb
  split at h
  · cases h
  split at h
  · next command hcommand =>
    cases h
    exact ⟨b, hb, hcommand, rfl⟩
  · cases h

theorem Command.of_ofArguments?_match {a : Arguments} {command : Command}
    (h : Command.ofArguments? "match" a = some command) :
    ∃ pattern subject, a.positionals = [[pattern], [subject]] ∧
      command = .matchOnce pattern subject (a.has ignoreCaseOption) := by
  simp only [Command.ofArguments?] at h
  split at h
  case h_2 pattern subject _ hpositionals =>
    cases h
    exact ⟨pattern, subject, hpositionals, rfl⟩
  -- The other branches are of other names.
  all_goals simp_all

/-- **Two words for the command for matching are the pattern and the subject.** -/
theorem Request.eq_of_read_match {pattern subject : String} {r : Request}
    (h : Request.read ["match", pattern, subject] = .ok r) :
    r = ⟨.matchOnce pattern subject false, false⟩ := by
  obtain ⟨a, ha, hcommand, hverbose⟩ := Request.exists_of_read_command (by decide) rfl h
  obtain ⟨hsub, hgiven⟩ := Form.sublist_of_read ha
  -- Both words became positional arguments, so they are these and no option was given.
  obtain ⟨text, data, hpositionals, hcommand⟩ := Command.of_ofArguments?_match hcommand
  rw [hpositionals] at hsub hgiven
  obtain ⟨rfl, rfl⟩ : text = pattern ∧ data = subject := by simpa using hsub.eq_of_length rfl
  have hplain : a.has ignoreCaseOption = false := by simp [Arguments.has, hgiven rfl]
  obtain ⟨command, verbose⟩ := r
  rw [hplain] at hcommand
  obtain rfl : command = _ := hcommand
  obtain rfl : verbose = false := hverbose
  rfl

end CommandLine

end RuleRegex
