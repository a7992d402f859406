import RuleRegex.Proofs.CommandLine.Answered
import RuleRegex.Proofs.Text.Integer
import RuleRegex.Proofs.Text.Quoted

/-!
# Reading back what a match shows

A match is shown on as many lines as it has groups, one for the whole match and one for each group. A line
has a label and then the bytes of the group, from which the bytes are read back. So the output for a match
tells which bytes its groups are.

## Main definitions

* `CommandLine.outputLines` — the lines of an output.
* `CommandLine.shownGroups` — the bytes of the groups that an output shows.
-/

namespace RuleRegex

namespace CommandLine

variable {Code : Type} {engine : Engine Code} {env : Environment} {room : Json.Room} {report : Report}
  {captures : List Bytes} {ls : List (List Char)} {label line : List Char} {c : Char} {verbose : Bool}

/-! ## Lines -/

/-- The lines of an output. Behind the last line break there is none. -/
def outputLines (output : List Char) : List (List Char) := (output.splitOn '\n').dropLast

/-- Lines are read back from how they are printed. -/
theorem splitOn_lines (h : ∀ l ∈ ls, '\n' ∉ l) : (lines ls).splitOn '\n' = ls ++ [[]] := by
  induction ls with
  | nil => rfl
  | cons l ls ih =>
    rw [List.forall_mem_cons] at h
    have hplain : ∀ c ∈ l, (c == '\n') = false := by
      intro c hc
      exact beq_false_of_ne fun heq => h.1 (heq ▸ hc)
    have hlines : lines (l :: ls) = l ++ '\n' :: lines ls := by simp [lines]
    rw [hlines, List.splitOn, List.splitOnP_append_cons_of_forall_mem hplain '\n' rfl]
    exact congrArg (l :: ·) (ih h.2)

theorem outputLines_lines (h : ∀ l ∈ ls, '\n' ∉ l) : outputLines (lines ls) = ls := by
  rw [outputLines, splitOn_lines h, List.dropLast_concat]

/-! ## Groups -/

/-- The bytes that a line shows behind its label. -/
def shownGroup (line : List Char) : Bytes :=
  Quoted.unescape ((line.dropWhile (· ≠ ':')).drop 2)

def shownGroups (output : List Char) : List Bytes := (outputLines output).map shownGroup

/-- The labels of the lines: no colon stands in them. -/
def IsLabel (label : List Char) : Prop := ∀ c ∈ label, c ≠ ':' ∧ 32 ≤ c.toNat ∧ c.toNat < 127

/-- The bytes behind a label are read back. -/
theorem shownGroup_of_isLabel (h : IsLabel label) (capture : Bytes) :
    shownGroup (label ++ ": ".toList ++ Quoted.bytes capture) = capture := by
  have hdrop : (label ++ ": ".toList ++ Quoted.bytes capture).dropWhile (· ≠ ':') =
      ": ".toList ++ Quoted.bytes capture := by
    rw [List.append_assoc, List.dropWhile_append_of_pos fun c hc => by simpa using (h c hc).1]
    rfl
  rw [shownGroup, hdrop]
  exact Quoted.unescape_bytes capture

theorem printable_of_isLabel (h : IsLabel label) (capture : Bytes) :
    ∀ c ∈ label ++ ": ".toList ++ Quoted.bytes capture, 32 ≤ c.toNat ∧ c.toNat < 127 := by
  have hmark : ∀ c ∈ ": ".toList, 32 ≤ c.toNat ∧ c.toNat < 127 :=
    List.all_iff_forall_prop.1 (by decide)
  intro c hc
  rw [List.mem_append, List.mem_append] at hc
  rcases hc with (hc | hc) | hc
  · exact (h c hc).2
  · exact hmark c hc
  · exact Quoted.printable_of_mem_bytes hc

theorem isLabel_match : IsLabel "match".toList :=
  List.all_iff_forall_prop.1 (by decide)

theorem isLabel_group (number : Nat) : IsLabel ("group ".toList ++ (toString number).toList) := by
  have hword : IsLabel "group ".toList := List.all_iff_forall_prop.1 (by decide)
  intro c hc
  rcases List.mem_append.1 hc with hc | hc
  · exact hword c hc
  · rw [Nat.toString_eq_ofList_toDigits, String.toList_ofList] at hc
    have hdigit := Text.isDigit_bounds (Nat.isDigit_of_mem_toDigits (by decide) (by decide) hc)
    refine ⟨?_, by omega, by omega⟩
    rintro rfl
    revert hdigit
    decide

theorem toList_match : "match: ".toList = "match".toList ++ ": ".toList := by decide

/-- Every line for a match is a label, a colon, a blank and the bytes of a group. -/
theorem exists_label_of_mem_matchLines (h : line ∈ matchLines captures) :
    ∃ label capture, IsLabel label ∧ line = label ++ ": ".toList ++ Quoted.bytes capture := by
  cases captures with
  | nil => cases h
  | cons whole captures =>
    rcases List.mem_cons.1 h with rfl | h
    · exact ⟨_, whole, isLabel_match, by rw [toList_match]⟩
    · obtain ⟨⟨capture, i⟩, -, rfl⟩ := List.mem_map.1 h
      exact ⟨_, capture, isLabel_group (i + 1), rfl⟩

theorem printable_of_mem_matchLines (h : line ∈ matchLines captures) :
    ∀ c ∈ line, 32 ≤ c.toNat ∧ c.toNat < 127 := by
  obtain ⟨label, capture, hlabel, rfl⟩ := exists_label_of_mem_matchLines h
  exact printable_of_isLabel hlabel capture

theorem length_matchLines (captures : List Bytes) : (matchLines captures).length = captures.length := by
  cases captures <;> simp [matchLines]

theorem shownGroup_groupLine (number : Nat) (capture : Bytes) :
    shownGroup (groupLine number capture) = capture :=
  shownGroup_of_isLabel (isLabel_group number) capture

/-- The groups of a match are read back from its lines. -/
theorem map_shownGroup_matchLines (captures : List Bytes) :
    (matchLines captures).map shownGroup = captures := by
  cases captures with
  | nil => rfl
  | cons whole captures =>
    rw [matchLines, List.map_cons, toList_match, shownGroup_of_isLabel isLabel_match, List.map_map]
    -- The numbers are only in the labels, so the groups are what is left without them.
    refine congrArg (whole :: ·) ?_
    refine (List.map_congr_left fun p _ => ?_).trans (List.zipIdx_map_fst 0 captures)
    rw [Function.comp_apply, shownGroup_groupLine]

theorem outputLines_matchLines (captures : List Bytes) :
    outputLines (lines (matchLines captures)) = matchLines captures := by
  apply outputLines_lines
  intro line hline hbreak
  have hprintable := printable_of_mem_matchLines hline '\n' hbreak
  revert hprintable
  decide

/-- **The bytes of the groups are read back from what a match shows.** -/
theorem shownGroups_matchLines (captures : List Bytes) :
    shownGroups (lines (matchLines captures)) = captures := by
  rw [shownGroups, outputLines_matchLines, map_shownGroup_matchLines]

/-! ## Matches -/

structure ShowsGroups (output : List Char) (captures : List Bytes) : Prop where
  /-- The output is lines and nothing else. -/
  lines_eq : lines (outputLines output) = output
  length_eq : (outputLines output).length = captures.length
  printable : ∀ line ∈ outputLines output, ∀ c ∈ line, 32 ≤ c.toNat ∧ c.toNat < 127
  groups_eq : shownGroups output = captures

/-- The lines of a match show its groups. -/
theorem showsGroups_matchLines (captures : List Bytes) :
    ShowsGroups (lines (matchLines captures)) captures where
  lines_eq := by rw [outputLines_matchLines]
  length_eq := by rw [outputLines_matchLines, length_matchLines]
  printable := by
    rw [outputLines_matchLines]
    exact fun line hline => printable_of_mem_matchLines hline
  groups_eq := shownGroups_matchLines captures

/-- A command for matching that is done shows the groups of the match. -/
theorem showsGroups_of_runCommand {pattern subject : String} {ignoreCase : Bool}
    (hrun : runCommand engine env room verbose (.matchOnce pattern subject ignoreCase) = .answered report)
    (hexit : report.exit = 0) :
    ∃ regex captures, CompilesTo engine env pattern ignoreCase (.ok regex) ∧
      regex.match engine (.proper (Utf8.encode subject.toList)) = .ok (some captures) ∧
      ShowsGroups report.output captures := by
  obtain ⟨ls, hdone, houtput⟩ := exists_succeeds_of_exit_eq_zero hrun hexit
  cases hdone with
  | @matched _ _ _ regex captures hcompile hmatch =>
    refine ⟨regex, captures, hcompile, hmatch, ?_⟩
    rw [houtput]
    exact showsGroups_matchLines captures

/-- **What the command line shows identifies the bytes.** There is one way to read bytes back from how they
are shown, so that different bytes are shown in different ways, and they are shown in printable ASCII
characters on one line. Wherever a pattern and a subject are matched with the exit code 0, what is printed
has one line more than the pattern has groups, and the bytes of the match and its groups are read back
from it. -/
theorem shown_bytes_identified (engine : Engine Code) (env : Environment) (room : Json.Room) :
    (∀ d : Bytes, Quoted.unescape (Quoted.bytes d) = d) ∧
    Function.Injective Quoted.bytes ∧
    (∀ d : Bytes, ∀ c ∈ Quoted.bytes d, 32 ≤ c.toNat ∧ c.toNat < 127) ∧
    ∀ pattern subject report, run engine env ["match", pattern, subject] room = .answered report →
      report.exit = 0 →
      ∃ regex captures, CompilesTo engine env pattern false (.ok regex) ∧
        regex.match engine (.proper (Utf8.encode subject.toList)) = .ok (some captures) ∧
        (outputLines report.output).length = regex.captureCount + 1 ∧
        ShowsGroups report.output captures := by
  refine ⟨Quoted.unescape_bytes, Quoted.bytes_injective, fun d c hc => Quoted.printable_of_mem_bytes hc, ?_⟩
  intro pattern subject report hrun hexit
  obtain ⟨r, hread, hrun⟩ := exists_read_of_run hrun
  obtain rfl := Request.eq_of_read_match hread
  obtain ⟨regex, captures, hcompile, hmatch, hshows⟩ := showsGroups_of_runCommand hrun hexit
  refine ⟨regex, captures, hcompile, hmatch, ?_, hshows⟩
  rw [hshows.length_eq, Regex.length_of_match_proper hmatch]

/-- A match with groups that took no part. -/
theorem shown_bytes_of_alternatives :
    let words := ["match", "(a)|(b)(x)?", "xxb"]
    let room : Json.Room := ⟨0, fun _ => 0⟩
    let report : Report := { exit := 0, output := "match: b\ngroup 1: \ngroup 2: b\ngroup 3: \n".toList }
    run Regex.groupsEngine {} words room = .answered report ∧ report.exit = 0 ∧
    (outputLines report.output).length = 4 ∧ shownGroups report.output = [[0x62], [], [0x62], []] := by
  intro words room report
  have hread : Request.read words = .ok ⟨.matchOnce "(a)|(b)(x)?" "xxb" false, false⟩ := by rfl
  have hrun : run Regex.groupsEngine {} words room = .answered report := run_of_read hread
  obtain ⟨-, -, -, hshown⟩ := shown_bytes_identified Regex.groupsEngine {} room
  obtain ⟨regex, captures, ⟨c, hc, hcompile⟩, hmatch, hlength, hshows⟩ := hshown _ _ report hrun rfl
  cases hc
  cases hcompile
  cases hmatch
  exact ⟨hrun, rfl, hlength, hshows.groups_eq⟩

end CommandLine

end RuleRegex
