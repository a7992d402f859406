import RuleRegex.Text.Alphabet

/-!
# Segments of a pattern

A pattern is cut from left to right into segments: the braced octal escapes, written `\o` and the
digits in braces, and verbatim text for everything else. An octal escape without braces is one
verbatim segment together with its digits, so that a brace after it opens nothing.

## Main definitions

* `Segment` — a verbatim piece or a braced octal escape.
* `Segment.source`, `Segment.output` — how a segment is written, and what it is written as.
* `scan` — the segments of a pattern.
-/

namespace RuleRegex

open Alphabet

def octalValue (ds : List (Fin 8)) : Nat := ds.foldl (fun n d => 8 * n + d.val) 0

/-- The hexadecimal digits of a number, most significant first, after those already known. -/
def hexDigitsOnto (n : Nat) (acc : List (Fin 16)) : List (Fin 16) :=
  let acc := Fin.ofNat 16 n :: acc
  if h : n < 16 then acc else hexDigitsOnto (n / 16) acc
termination_by n
decreasing_by omega

/-- The hexadecimal digits of a number without leading zeros; zero has one digit. -/
def hexDigits (n : Nat) : List (Fin 16) := hexDigitsOnto n []

inductive Segment (α : Type) where
  /-- Text that stands as it is. -/
  | verbatim (text : List α)
  /-- A braced octal escape with its digits. -/
  | escape (digits : List (Fin 8))
  deriving DecidableEq, Repr

namespace Segment

variable {α : Type} [Alphabet α]

def source : Segment α → List α
  | verbatim text => text
  | escape ds => ascii '\\' :: ascii 'o' :: ascii '\x7b' :: (ds.map ofOctal ++ [ascii '\x7d'])

/-- The piece as the engine is given it: an octal escape in hexadecimal, other text unchanged. -/
def output : Segment α → List α
  | verbatim text => text
  | escape ds =>
    ascii '\\' :: ascii 'x' :: ascii '\x7b' ::
      ((hexDigits (octalValue ds)).map ofHex ++ [ascii '\x7d'])

def isEscape : Segment α → Bool
  | verbatim _ => false
  | escape _ => true

end Segment

section Scan

variable {α : Type} [Alphabet α]

def startsThreeOctal : List α → Bool
  | a :: b :: c :: _ => isOctal a && isOctal b && isOctal c
  | _ => false

/-- Whether a zero and then three octal digits come first. -/
def startsZeroOctal : List α → Bool
  | z :: rest => isAscii '0' z && startsThreeOctal rest
  | [] => false

def startsBrace : List α → Bool
  | o :: b :: _ => isAscii 'o' o && isAscii '\x7b' b
  | _ => false

/-- What stands before the first closing brace, and what follows that brace. -/
def untilBrace : List α → Option (List α × List α)
  | [] => none
  | a :: rest =>
    if isAscii '\x7d' a then some ([], rest)
    else (untilBrace rest).map fun (inside, after) => (a :: inside, after)

/-- The digits in braces, if there are some and nothing else, and what follows the closing brace. -/
def bracedOctal? (rest : List α) : Option (List (Fin 8) × List α) := do
  let (inside, after) ← untilBrace rest
  let ds ← inside.mapM octalValue?
  if ds.isEmpty then none else some (ds, after)

/-- The segment that begins with the given symbol, and what follows it. -/
def nextSegment (a : α) (rest : List α) : Segment α × List α :=
  if !isAscii '\\' a then (.verbatim [a], rest)
  else if startsZeroOctal rest then (.verbatim (a :: rest.take 4), rest.drop 4)
  else if startsThreeOctal rest then (.verbatim (a :: rest.take 3), rest.drop 3)
  else if startsBrace rest then
    match bracedOctal? (rest.drop 2) with
    | some (ds, after) => (.escape ds, after)
    | none => (.verbatim (a :: rest.take 2), rest.drop 2)
  else (.verbatim [a], rest)

theorem length_untilBrace_le {inside after : List α} :
    ∀ {rest : List α}, untilBrace rest = some (inside, after) → after.length ≤ rest.length
  | [], h => by simp [untilBrace] at h
  | a :: rest, h => by
    unfold untilBrace at h
    split at h
    · simp only [Option.some.injEq, Prod.mk.injEq] at h
      simp [h.2]
    · obtain ⟨⟨i, t⟩, ht, hi⟩ := Option.map_eq_some_iff.1 h
      simp only [Prod.mk.injEq] at hi
      have := length_untilBrace_le (hi.2 ▸ ht)
      simp only [List.length_cons]
      omega

theorem length_bracedOctal?_le {rest after : List α} {ds : List (Fin 8)}
    (h : bracedOctal? rest = some (ds, after)) : after.length ≤ rest.length := by
  unfold bracedOctal? at h
  obtain ⟨⟨i, t⟩, ht, h⟩ := Option.bind_eq_some_iff.1 h
  obtain ⟨es, _, h⟩ := Option.bind_eq_some_iff.1 h
  split at h
  · simp at h
  · simp only [Option.some.injEq, Prod.mk.injEq] at h
    exact length_untilBrace_le (h.2 ▸ ht)

/-- What follows a segment is no longer than what followed its first symbol. -/
theorem length_nextSegment_le (a : α) (rest : List α) :
    (nextSegment a rest).2.length ≤ rest.length := by
  unfold nextSegment
  split
  · simp
  · split
    · simp
    · split
      · simp
      · split
        · split
          next h =>
            have := length_bracedOctal?_le h
            simp only [List.length_drop] at this
            simp only
            omega
          · simp
        · simp

def scan : List α → List (Segment α)
  | [] => []
  | a :: rest => (nextSegment a rest).1 :: scan (nextSegment a rest).2
termination_by p => p.length
decreasing_by
  have := length_nextSegment_le a rest
  simp only [List.length_cons]
  omega

end Scan

end RuleRegex
