import RuleRegex.Json.Reader

/-!
# Room to read in

A reader that is given more room makes the same of a text, unless it gave up for want of room. So the room
shows in that one failure only.

## Main definitions

* `Json.Upholds` — a result stands, unless it is that of a reader without room.
* `Json.Room.Within` — one room is within another.
-/

namespace RuleRegex

namespace Json

/-- The second result is the first, unless the first is that of a reader without room. -/
def Upholds {α : Type} (r r' : Reading α) : Prop := r = .error .tooDeep ∨ r' = r

/-- Another room lets no less be nested and keeps no more of it for reports. -/
structure Room.Within (room room' : Room) : Prop where
  nesting_le : room.nesting ≤ room'.nesting
  reserve_le : ∀ f, room'.reserve f ≤ room.reserve f

variable {α : Type} {r r' : Reading α} {reserve reserve' : Fault → Nat} {depth depth' : Nat}
  {item item' : List CodePoint → Reading Json} {room room' : Room} {s : List CodePoint}

theorem Upholds.refl (r : Reading α) : Upholds r r := .inr rfl

/-- More room upholds what is reported. -/
theorem Upholds.reported (h : Upholds r r') (hdepth : depth ≤ depth')
    (hreserve : ∀ f, reserve' f ≤ reserve f) :
    Upholds (reported reserve depth r) (reported reserve' depth' r') := by
  rcases h with rfl | rfl
  · exact .inl rfl
  rcases r' with (⟨f, left⟩ | n | _) | ⟨a, s⟩
  · rw [Json.reported, Json.reported]
    have hless := hreserve f
    split
    · exact .inl rfl
    · exact .inr (if_neg (by omega))
  · exact .refl _
  · exact .refl _
  · exact .refl _

theorem upholds_items (hitem : ∀ s, Upholds (item s) (item' s)) (fuel : Nat) (acc : List Json)
    (s : List CodePoint) : Upholds (items item fuel acc s) (items item' fuel acc s) := by
  induction fuel generalizing acc s with
  | zero => exact .refl _
  | succ fuel ih =>
    rw [items, items]
    rcases hitem s with he | he
    · exact .inl (by rw [he])
    rw [he]
    split
    · exact .refl _
    split
    · exact .refl _
    split
    · exact .refl _
    split
    · exact ih _ _
    · exact .refl _

theorem upholds_members (hitem : ∀ s, Upholds (item s) (item' s)) (fuel : Nat)
    (acc : List (List CodePoint × Json)) (s : List CodePoint) :
    Upholds (members item fuel acc s) (members item' fuel acc s) := by
  induction fuel generalizing acc s with
  | zero => exact .refl _
  | succ fuel ih =>
    unfold members
    split
    · exact .refl _
    split
    · exact .refl _
    split
    · exact .refl _
    split
    · exact .refl _
    next c t _ =>
    split
    · exact .refl _
    rcases hitem (skipBlanks t) with he | he
    · exact .inl (by rw [he])
    rw [he]
    split
    · exact .refl _
    split
    · exact .refl _
    split
    · exact .refl _
    split
    · exact ih _ _
    · exact .refl _

theorem upholds_array (hitem : ∀ s, Upholds (item s) (item' s)) (s : List CodePoint) :
    Upholds (array item s) (array item' s) := by
  rw [array, array]
  split
  · exact .refl _
  split
  · exact .refl _
  · exact upholds_items hitem _ _ _

theorem upholds_object (hitem : ∀ s, Upholds (item s) (item' s)) (s : List CodePoint) :
    Upholds (object item s) (object item' s) := by
  rw [object, object]
  split
  · exact .refl _
  split
  · exact .refl _
  · exact upholds_members hitem _ _ _

/-- Brackets take one from the nesting on both sides. -/
theorem upholds_brackets {inside inside' : Nat → List CodePoint → Reading Json}
    (hreserve : ∀ f, reserve' f ≤ reserve f)
    (hinside : ∀ m < depth, ∀ m', m ≤ m' → ∀ s, Upholds (inside m s) (inside' m' s))
    (s : List CodePoint) : depth ≤ depth' → Upholds
      (match depth with
        | 0 => .error .tooDeep
        | m + 1 => reported reserve m (inside m s))
      (match depth' with
        | 0 => .error .tooDeep
        | m + 1 => reported reserve' m (inside' m s)) := by
  intro hdepth
  split
  · exact .inl rfl
  next m =>
  obtain ⟨m', rfl⟩ := Nat.exists_eq_add_of_le' hdepth
  have hm : m ≤ m' + m := Nat.le_add_left m m'
  exact (hinside m (Nat.lt_succ_self m) (m' + m) hm s).reported hm hreserve

/-- **More room upholds what was read.** -/
theorem upholds_value (hreserve : ∀ f, reserve' f ≤ reserve f) (hdepth : depth ≤ depth')
    (s : List CodePoint) : Upholds (value reserve depth s) (value reserve' depth' s) := by
  -- on the smaller nesting: what runs out first is what the first reader has left
  induction depth using Nat.strongRecOn generalizing depth' s with
  | ind depth ih =>
    unfold value
    split
    · exact (Upholds.refl _).reported hdepth hreserve
    next p s =>
    split
    · exact (Upholds.refl _).reported hdepth hreserve
    split
    · exact upholds_brackets hreserve (fun m hm m' hm' => upholds_array (ih m hm hm')) s hdepth
    split
    · exact upholds_brackets hreserve (fun m hm m' hm' => upholds_object (ih m hm hm')) s hdepth
    · exact (Upholds.refl _).reported hdepth hreserve

/-- More room upholds what was read as a document. -/
theorem upholds_document (h : room.Within room') (s : List CodePoint) :
    Upholds (document room s) (document room' s) := by
  unfold document
  split
  · exact .refl _
  split
  · exact .refl _
  rcases upholds_value h.reserve_le h.nesting_le (skipBlanks _) with he | he
  · exact .inl (by rw [he])
  · exact .inr (by rw [he])

/-- **The room shows only where the reader gives up for want of it.** -/
theorem read_of_within (h : room.Within room') (hs : read s room ≠ .error .tooDeep) :
    read s room' = read s room := by
  rcases (upholds_document h s).reported h.nesting_le h.reserve_le with he | he
  · exact absurd (by rw [read, he]; rfl) hs
  · rw [read, he, read]

end Json

end RuleRegex
