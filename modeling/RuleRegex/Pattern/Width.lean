import RuleRegex.Pattern.Flaw
import RuleRegex.Pattern.Visit

/-!
# Widths of lookbehinds

A lookbehind goes back by a fixed number of characters, so each of its branches must have one width.

## Main definitions

* `Width.ofBranch` — the width of a branch.
* `Pattern.lookbehindFault?` — the first fault of the lookbehinds of a pattern.
* `Pattern.width` — the width of a branch of a faultless lookbehind.
-/

namespace RuleRegex

namespace Width

/-- A flaw, and where it is reported if that is not where the lookbehind begins. -/
structure Fault where
  flaw : Flaw
  position : Option Nat := none
  deriving DecidableEq, Repr

/-- How many branches have been measured, and the widths known of groups. -/
structure Progress where
  measured : Nat := 0
  known : List (Nat × Nat) := []

abbrev Measure := StateT Progress (Except Fault)

structure Context where
  groupCount : Nat
  names : List (List Nat × Nat)
  sharedNumbers : Bool
  captures : List (Nat × List Branch)

/-- The branches of each lookbehind that is in no other one, with its position. -/
abbrev Lookbehind := Nat × List Branch

mutual

def lookbehinds : Node → List Lookbehind
  | .group (.look .behind _) position branches _ => [(position, branches)]
  | .group (.lookAgain .behind) position branches _ => [(position, branches)]
  | .group _ _ branches _ => lookbehindsInBranches branches
  | .conditional (.look .behind _ position) _ test branches _ =>
    (position, test) :: lookbehindsInBranches branches
  | .conditional _ _ test branches _ => lookbehindsInBranches test ++ lookbehindsInBranches branches
  | _ => []

def lookbehindsInBranch : List Node → List Lookbehind
  | [] => []
  | n :: ns => lookbehinds n ++ lookbehindsInBranch ns

def lookbehindsInBranches : List (List Node) → List Lookbehind
  | [] => []
  | b :: bs => lookbehindsInBranch b ++ lookbehindsInBranches bs

end

def largest : Nat := 65535

def mostMeasured : Nat := 2000

def fail {α : Type} (flaw : Flaw) : Measure α := throw ⟨flaw, none⟩

def checked (width : Nat) : Measure Nat :=
  if largest < width then fail .lookbehindTooLong else pure width

def repeated (width : Nat) (count : Count) : Measure Nat :=
  if count.most = some count.least then checked (width * count.least) else fail .lookbehindNotFixed

def ofBranches (branch : Branch → Measure Nat) : List Branch → Measure Nat
  | [] => pure 0
  | b :: bs => do
    let first ← branch b
    bs.forM fun b => do
      if (← branch b) ≠ first then fail .lookbehindNotFixed
    pure first

/-- The width of the capture group of a number, which is measured once unless groups share numbers. -/
def ofCapture (x : Context) (group : Nat) (measure : Measure Nat) : Measure Nat := do
  let s ← get
  match if x.sharedNumbers then none else s.known.lookup group with
  | some width => pure width
  | none =>
    let width ← measure
    modify fun s => { s with known := (group, width) :: s.known }
    pure width

/-- The width of a group that is referred to from inside the groups of `within`. -/
def ofReference (x : Context) (branch : List Nat → Branch → Measure Nat) (within : List Nat)
    (group position : Nat) : Measure Nat :=
  if x.groupCount < group then throw ⟨.noSuchGroup, some position⟩
  else if group = 0 ∨ group ∈ within then fail .lookbehindNotFixed
  else
    match x.captures.lookup group with
    | none => fail .lookbehindNotFixed
    | some branches => ofCapture x group (ofBranches (branch (group :: within)) branches)

def ofLookbehind (branch : Branch → Measure Nat) (l : Lookbehind) : Measure Unit := do
  for b in l.2 do
    tryCatch (do let _ ← branch b; pure ()) fun f =>
      throw { f with position := f.position.or (some l.1) }

def ofLookbehinds (branch : Branch → Measure Nat) (branches : List Branch) : Measure Unit :=
  (lookbehindsInBranches branches).forM (ofLookbehind branch)

def groupNamed? (x : Context) (name : List Nat) : Option Nat := x.names.lookup name

def ofItem (x : Context) (branch : List Nat → Branch → Measure Nat) (within : List Nat) :
    Node → Measure Nat
  | .single s _ =>
    match s with
    | .newline | .cluster => fail .lookbehindNotFixed
    | .byte => fail .byteInLookbehind
    | _ => pure 1
  | .backreference (.number n) _ position _ =>
    if x.sharedNumbers then fail .lookbehindNotFixed else ofReference x branch within n position
  | .backreference (.name name) _ position _ =>
    match groupNamed? x name with
    | none => throw ⟨.noSuchGroup, some position⟩
    | some n =>
      if x.sharedNumbers || 1 < (x.names.filter (·.1 = name)).length then fail .lookbehindNotFixed
      else ofReference x branch within n position
  | .recursion (.number n) position _ => ofReference x branch within n position
  | .recursion (.name name) position _ =>
    match groupNamed? x name with
    | none => throw ⟨.noSuchGroup, some position⟩
    | some n => ofReference x branch within n position
  | .group (.look .ahead _) _ branches _ | .group (.lookAgain .ahead) _ branches _ => do
    ofLookbehinds (branch within) branches
    pure 0
  | .group (.look .behind _) position branches _
  | .group (.lookAgain .behind) position branches _ => do
    ofLookbehind (branch within) (position, branches)
    pure 0
  | .group (.capture n) _ branches _ => ofCapture x n (ofBranches (branch within) branches)
  | .group _ _ branches _ => ofBranches (branch within) branches
  | .conditional .define _ _ _ _ => pure 0
  | .conditional (.look .behind _ position) _ test branches _ => do
    ofLookbehind (branch within) (position, test)
    ofBranches (branch within) branches
  | .conditional _ _ test branches _ => do
    ofLookbehinds (branch within) test
    ofBranches (branch within) branches
  | .anchor _ | .verb _ | .accept | .callout => pure 0

/-- The repetition of an item. That of a lookahead does not count. -/
def countOf : Node → Count
  | .group (.look .ahead _) _ _ _ | .group (.lookAgain .ahead) _ _ _ => {}
  | .single _ c | .backreference _ _ _ c | .recursion _ _ c | .group _ _ _ c
  | .conditional _ _ _ _ c => c
  | .anchor _ | .verb _ | .accept | .callout => {}

/-- The width of items after a width. What follows an item that ends a branch does not count. -/
def ofItems (item : Node → Measure Nat) (width : Nat) : List Node → Measure Nat
  | [] => pure width
  | .accept :: _ | .verb .fail :: _ => pure width
  | n :: ns => do
    let w ← item n
    let total ← checked (width + (← repeated w (countOf n)))
    ofItems item total ns

/-- The width of a branch. The fuel is how many branches may be measured, one inside the other. -/
def ofBranch (x : Context) : Nat → List Nat → Branch → Measure Nat
  | 0, _, _ => fail .lookbehindTooComplicated
  | fuel + 1, within, b => do
    let s ← get
    if mostMeasured < s.measured then fail .lookbehindTooComplicated
    else
      set { s with measured := s.measured + 1 }
      ofItems (ofItem x (ofBranch x fuel) within) 0 b

/-- The fuel that lasts for as many branches as may be measured. -/
def fuel : Nat := mostMeasured + 2

end Width

namespace Pattern

def widthContext (p : Pattern) : Width.Context :=
  ⟨p.groupCount, p.names, p.sharedNumbers, p.captures⟩

def lookbehindFault? (p : Pattern) : Option (Flaw × Nat) :=
  let measure := Width.ofLookbehinds (Width.ofBranch p.widthContext Width.fuel []) p.branches
  match measure.run {} with
  | .ok _ => none
  | .error f => some (f.flaw, f.position.getD 0)

def width (x : Width.Context) (b : Branch) : Nat :=
  match (Width.ofBranch x Width.fuel [] b).run {} with
  | .ok (n, _) => n
  | .error _ => 0

end Pattern

end RuleRegex
