import RuleRegex.Source.Document

/-!
# Documents that are no source

A value can be no source for several reasons at once. Its faults are said one by one, without regard to
each other, and the one that is reported is the first in a fixed order: a value that is no object, a
member that is missing, a member of the wrong kind, text that is not Base64. A value without faults is a
source. Members of other names make no difference.

## Main definitions

* `Document.Has` — a value has a fault, whatever else is wrong with it.
* `Document.Fault.rank` — the order of the faults.
* `Document.kept` — the members of an object that a source is read from.
-/

namespace RuleRegex

variable {members members' : List (List CodePoint × Json)}

/-- Members that are left out do not matter for the last one of a name that is not. -/
theorem Json.lastMember?_filter {name : List CodePoint} {p : List CodePoint → Bool}
    (h : p name = true) :
    lastMember? name (members.filter fun m => p m.1) = lastMember? name members := by
  induction members with
  | nil => rfl
  | cons m members ih =>
    rw [List.filter_cons, lastMember?]
    split
    · rw [lastMember?, ih]
    · next hm =>
      have hne : m.1 ≠ name := fun he => hm (he ▸ h)
      rw [ih, if_neg hne, Option.or_none]

namespace Document

variable {v : Json} {f g : Fault} {s : Source}

/-! ## The faults of a value -/

/-- A value has a fault, whatever else is wrong with it. -/
inductive Has (v : Json) : Fault → Prop
  | notObject (h : ∀ members, v ≠ .obj members) : Has v (.notObject v.kind)
  | missing {field : String} (hfield : field = patternField ∨ field = flagField)
    (h : v.member? field = none) : Has v (.missing field)
  | patternNotString {w : Json} (h : v.member? patternField = some w) (hw : ∀ text, w ≠ .str text) :
    Has v .patternNotString
  | flagNotBoolean {w : Json} (h : v.member? flagField = some w) (hw : ∀ b, w ≠ .bool b) :
    Has v .flagNotBoolean
  | base64 {text : List CodePoint} {fault : Base64.Fault}
    (h : v.member? patternField = some (.str text)) (hfault : Base64.decode text = .error fault) :
    Has v (.base64 fault)

def Fault.rank : Fault → Nat
  | notObject _ => 0
  | missing field => if field = patternField then 1 else 2
  | patternNotString => 3
  | flagNotBoolean => 4
  | base64 _ => 5

theorem flagField_ne_patternField : flagField ≠ patternField := by
  decide

/-- A value has one fault of a rank at most. -/
theorem Has.eq_of_rank_eq (hf : Has v f) (hg : Has v g) (h : f.rank = g.rank) : f = g := by
  have hne := flagField_ne_patternField
  cases hf <;> cases hg <;> grind [Fault.rank]

/-! ## What is read of a value -/

/-- A value is a source exactly if it is an object whose two members say so. -/
theorem toSource_eq_ok_iff :
    toSource v = .ok s ↔ ∃ members text, v = .obj members ∧
      v.member? patternField = some (.str text) ∧ Base64.decode text = .ok s.pattern ∧
      v.member? flagField = some (.bool s.caseSensitive) := by
  constructor
  · intro h
    unfold toSource at h
    split at h
    · next members =>
      split at h
      · cases h
      · cases h
      · next text flag hpattern hflag =>
        split at h
        · next pattern hdecode =>
          cases h
          exact ⟨members, text, rfl, hpattern, hdecode, hflag⟩
        · cases h
      · cases h
      · cases h
    · cases h
  · rintro ⟨members, text, rfl, hpattern, hdecode, hflag⟩
    simp only [toSource, hpattern, hflag, hdecode]

/-- What is reported is a fault of the value. -/
theorem has_of_toSource_eq_error (h : toSource v = .error f) : Has v f := by
  unfold toSource at h
  split at h
  · split at h
    · next hmissing =>
      cases h
      exact .missing (.inl rfl) hmissing
    · next hmissing =>
      cases h
      exact .missing (.inr rfl) hmissing
    · next hpattern _ =>
      split at h
      · cases h
      · next hfault =>
        cases h
        exact .base64 hpattern hfault
    · next hkind _ hflag =>
      cases h
      exact .flagNotBoolean hflag hkind
    · next hkind hpattern _ =>
      cases h
      exact .patternNotString hpattern hkind
  · next hobject =>
    cases h
    exact .notObject hobject

/-- No fault of the value stands before the one that is reported. -/
theorem rank_le_of_toSource_eq_error (h : toSource v = .error f) (hg : Has v g) :
    f.rank ≤ g.rank := by
  have hne := flagField_ne_patternField
  unfold toSource at h
  cases hg with
  | notObject hobject =>
    split at h
    · exact absurd rfl (hobject _)
    · cases h
      exact Nat.le_refl 0
  | missing => grind [Fault.rank]
  | patternNotString => grind [Fault.rank]
  | flagNotBoolean => grind [Fault.rank]
  | base64 => grind [Fault.rank]

/-- A source has no fault. -/
theorem not_has_of_toSource_eq_ok (h : toSource v = .ok s) : ¬Has v f := by
  obtain ⟨members, text, rfl, hpattern, hdecode, hflag⟩ := toSource_eq_ok_iff.1 h
  intro hf
  cases hf with
  | notObject hobject => exact hobject members rfl
  | missing hfield hmissing =>
    obtain rfl | rfl := hfield
    · cases hmissing.symm.trans hpattern
    · cases hmissing.symm.trans hflag
  | patternNotString hpattern' hkind =>
    exact hkind text (Option.some.inj (hpattern'.symm.trans hpattern))
  | flagNotBoolean hflag' hkind =>
    exact hkind s.caseSensitive (Option.some.inj (hflag'.symm.trans hflag))
  | base64 hpattern' hfault =>
    obtain rfl := Json.str.inj (Option.some.inj (hpattern'.symm.trans hpattern))
    cases hfault.symm.trans hdecode

/-- The fault that is reported is the first one that a value has. -/
theorem toSource_eq_error_iff :
    toSource v = .error f ↔ Has v f ∧ ∀ g, Has v g → f.rank ≤ g.rank := by
  constructor
  · exact fun h => ⟨has_of_toSource_eq_error h, fun g => rank_le_of_toSource_eq_error h⟩
  · rintro ⟨hf, hfirst⟩
    cases h : toSource v with
    | ok s => exact absurd hf (not_has_of_toSource_eq_ok h)
    | error g =>
      have hg := has_of_toSource_eq_error h
      have hrank := Nat.le_antisymm (rank_le_of_toSource_eq_error h hf) (hfirst g hg)
      rw [hg.eq_of_rank_eq hf hrank]

/-! ## Other members -/

def isKept (name : List CodePoint) : Bool :=
  name = CodePoint.ofString patternField ∨ name = CodePoint.ofString flagField

/-- The members of an object that a source is read from. -/
def kept (members : List (List CodePoint × Json)) : List (List CodePoint × Json) :=
  members.filter fun m => isKept m.1

theorem member?_kept {field : String} (h : isKept (CodePoint.ofString field) = true) :
    (Json.obj (kept members)).member? field = (Json.obj members).member? field :=
  Json.lastMember?_filter h

/-- Only the two members decide what an object is read as. -/
theorem toSource_kept (members : List (List CodePoint × Json)) :
    toSource (.obj (kept members)) = toSource (.obj members) := by
  have hpattern : isKept (CodePoint.ofString patternField) = true := by decide
  have hflag : isKept (CodePoint.ofString flagField) = true := by decide
  simp only [toSource, member?_kept hpattern, member?_kept hflag]

/-- **A source is read from two members of an object, and the first fault of a value is reported.** A
value is the source of the Base64 text and the truth value that it has under the two names. Every other
value has a fault, and of its faults the first in their order is reported. Objects that have the same
members under the two names are the same source or have the same fault reported, whatever members are
added to them, changed in them or removed from them beside. -/
theorem toSource_reads_two_members :
    (∀ v s, toSource v = .ok s ↔ ∃ members text, v = .obj members ∧
      v.member? patternField = some (.str text) ∧ Base64.decode text = .ok s.pattern ∧
      v.member? flagField = some (.bool s.caseSensitive)) ∧
    (∀ v f, toSource v = .error f ↔ Has v f ∧ ∀ g, Has v g → f.rank ≤ g.rank) ∧
    ∀ members members', kept members = kept members' →
      toSource (.obj members) = toSource (.obj members') := by
  refine ⟨fun v s => toSource_eq_ok_iff, fun v f => toSource_eq_error_iff, ?_⟩
  intro members members' h
  rw [← toSource_kept members, h, toSource_kept]

/-- A number that stands for the flag is reported before text that is not ASCII, with other members in
between or without them. -/
theorem flag_reported_before_base64 :
    let pattern : List CodePoint × Json := (CodePoint.ofString patternField, .ofString "Zé==")
    let flag : List CodePoint × Json := (CodePoint.ofString flagField, .int 1)
    let other : List CodePoint × Json := (CodePoint.ofString "comment", .arr [.bool true])
    Has (.obj [pattern, flag]) (.base64 (.beyondAscii (CodePoint.ofChar 'é') 1 1)) ∧
      Has (.obj [pattern, flag]) .flagNotBoolean ∧
      toSource (.obj [pattern, flag]) = .error .flagNotBoolean ∧
      kept [other, pattern, other, flag] = kept [pattern, flag] ∧
      toSource (.obj [other, pattern, other, flag]) = .error .flagNotBoolean := by
  intro pattern flag other
  have hread : toSource (.obj [pattern, flag]) = .error .flagNotBoolean := rfl
  have hkept : kept [other, pattern, other, flag] = kept [pattern, flag] := rfl
  have hpattern : (Json.obj [pattern, flag]).member? patternField =
      some (.str (CodePoint.ofString "Zé==")) := rfl
  obtain ⟨-, hfirst, hsame⟩ := toSource_reads_two_members
  refine ⟨.base64 hpattern rfl, ((hfirst _ _).1 hread).1, hread, hkept, ?_⟩
  rw [hsame _ _ hkept, hread]

end Document

end RuleRegex
