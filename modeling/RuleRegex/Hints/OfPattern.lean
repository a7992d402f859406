import RuleRegex.Hints.Bytes
import RuleRegex.Hints.Least
import RuleRegex.Hints.Starts
import RuleRegex.Program.Consumes

/-!
# Hints of a pattern

## Main definitions

* `Hints.ofPattern` — what is known beforehand of the subjects that match a pattern.
-/

namespace RuleRegex

namespace Hints

/-- The hint of a byte; only letters have another case that is one byte. -/
def byteHint (b : Nat) (caseless : Bool) : ByteHint :=
  let other :=
    if isAsciiLower b then some (b - 32) else if isAsciiUpper b then some (b + 32) else none
  ⟨b, if caseless then other else none⟩

def ofKnown : Known → Option ByteHint
  | .byte b caseless _ => some (byteHint b caseless)
  | _ => none

/-- The one byte, or the two cases of a letter, that a match can begin with, unless it is the required
byte. A letter that is the same as a wide character does not count. -/
def onlyByte? (required : Option ByteHint) (starts : List Nat) : Option ByteHint :=
  let isRequired (b : Nat) : Bool := required.any (·.byte == b)
  match starts with
  | [a] => if a < 128 ∧ !isRequired a then some ⟨a, none⟩ else none
  | [a, b] =>
    if isAsciiUpper a ∧ b = a + 32 ∧ Unicode.otherCases b = [a] ∧ !isRequired a ∧ !isRequired b then
      some ⟨a, some b⟩
    else none
  | _ => none

def isSkipping : Node → Bool
  | .verb (.prune _) | .verb .skip | .verb (.skipTo _) => true
  | _ => false

def isAccept : Node → Bool
  | .accept => true
  | _ => false

def referred (p : Pattern) : Node → List Nat
  | .backreference (.number n) _ _ _ => [n]
  | .backreference (.name name) _ _ _ => p.groupsNamed name
  | _ => []

def allReferred (p : Pattern) : List Nat := p.visit { enter := fun _ n => referred p n }

/-- A number of characters that no match of a pattern is shorter than. -/
def leastOf (p : Pattern) (program : Program) (referred : List Nat) : Nat :=
  if !Node.allConsume p.branches || p.anyNode isAccept || referred.any (Least.mostReferred < ·) then 0
  else (program.least? p.sharedNumbers).getD 0

def ofPattern (p : Pattern) (program : Program) : Hints :=
  let ends := if p.anyNode isAccept then { p.ends with required := .absent } else p.ends
  let fuel := program.code.size + 1
  let referred := allReferred p
  let leading : Leading :=
    { program, referred := referred.map Leading.slot
      dotCounts := !p.anyNode isSkipping && !p.settings.noDotStarAnchor }
  let anchored := leading.isAnchored fuel {} 0
  let first := (ofKnown ends.first).or <|
    (Leading.aheadByte? program fuel false none 0).map fun (b, caseless) => byteHint b caseless
  let atLine := first.isNone && !anchored && leading.isAtLine fuel {} 0
  let requiredAnywhere := ofKnown ends.required
  let varies := match ends.required with
    | .byte _ _ v => v
    | _ => false
  let required := if anchored && !varies then none else requiredAnywhere
  let found := if first.isSome || atLine then none else program.startBytes?
  let bytes := found.map fun bytes => (List.range 256).filter (bytes.contains ·)
  let only := bytes.bind (onlyByte? required)
  let starts := if only.isSome then none else bytes
  let apart : Bool := match first, requiredAnywhere with
    | some u, some v => u.byte < 128 || v.byte < 128
    | _, r => r.isSome
  let least := max (leastOf p program referred)
    (max (first.toList.length + apart.toNat) starts.toList.length)
  { anchored, first := first.or only, atLine
    starts := starts.map fun bytes => ((List.range 256).map bytes.contains).toArray
    required, least }

end Hints

end RuleRegex
