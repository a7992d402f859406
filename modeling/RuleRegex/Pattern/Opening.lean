import RuleRegex.Pattern.Flaw
import RuleRegex.Pattern.Syntax

/-!
# Settings at the start of a pattern

## Main definitions

* `Settings.read` — the settings that a pattern begins with, and how many bytes they take.
-/

namespace RuleRegex

namespace Settings

inductive Effect where
  | update (f : Settings → Settings)
  /-- A number and a closing parenthesis follow. -/
  | limit (f : Settings → Nat → Settings)

/-- The settings by what stands after a parenthesis and an asterisk. -/
def effects : List (String × Effect) :=
  [("UTF8)", .update id), ("UTF)", .update id),
    ("UCP)", .update fun s => { s with unicodeClasses := true }),
    ("NOTEMPTY)", .update fun s => { s with refuseEmpty := true }),
    ("NOTEMPTY_ATSTART)", .update fun s => { s with refuseEmptyAtStart := true }),
    ("NO_AUTO_POSSESS)", .update fun s => { s with noPossessification := true }),
    ("NO_DOTSTAR_ANCHOR)", .update fun s => { s with noDotStarAnchor := true }),
    ("NO_JIT)", .update id),
    ("NO_START_OPT)", .update fun s => { s with noStartHints := true }),
    ("LIMIT_HEAP=", .limit fun s n => { s with heapLimit := some n }),
    ("LIMIT_MATCH=", .limit fun s n => { s with matchLimit := some n }),
    ("LIMIT_DEPTH=", .limit fun s n => { s with depthLimit := some n }),
    ("LIMIT_RECURSION=", .limit fun s n => { s with depthLimit := some n }),
    ("CR)", .update fun s => { s with lineBreak := .cr }),
    ("LF)", .update fun s => { s with lineBreak := .lf }),
    ("CRLF)", .update fun s => { s with lineBreak := .crlf }),
    ("ANY)", .update fun s => { s with lineBreak := .any }),
    ("NUL)", .update fun s => { s with lineBreak := .nul }),
    ("ANYCRLF)", .update fun s => { s with lineBreak := .anyCrlf }),
    ("BSR_ANYCRLF)", .update fun s => { s with onlyCrlf := true }),
    ("BSR_UNICODE)", .update fun s => { s with onlyCrlf := false })]

def after? : List Char → List UInt8 → Option (List UInt8)
  | [], s => some s
  | c :: cs, b :: s => if b.toNat = c.toNat then after? cs s else none
  | _ :: _, [] => none

/-- The first effect that bytes name, the length of its name, and what follows. -/
def firstEffect? (bytes : List UInt8) : Option (Nat × Effect × List UInt8) :=
  effects.findSome? fun (name, e) => (after? name.toList bytes).map fun t => (name.length, e, t)

/-- The largest value after which a limit takes another digit. -/
def largestPrefix : Nat := 429496728

/-- The digits of a limit as a number that follows `n`, how many there are, and what follows. Digits that
would make it too large are left. -/
def limitDigits (n count : Nat) : List UInt8 → Nat × Nat × List UInt8
  | [] => (n, count, [])
  | b :: rest =>
    if 48 ≤ b.toNat ∧ b.toNat < 58 ∧ n ≤ largestPrefix then
      limitDigits (10 * n + (b.toNat - 48)) (count + 1) rest
    else (n, count, b :: rest)

/-- The settings after those that the bytes begin with. `position` is where the bytes begin. -/
def readFrom : Nat → Settings → Nat → List UInt8 → Except (Flaw × Nat) (Settings × Nat)
  | 0, settings, position, _ => .ok (settings, position)
  | fuel + 1, settings, position, bytes =>
    match after? ['(', '*'] bytes with
    | none => .ok (settings, position)
    | some rest =>
      match firstEffect? rest with
      | none => .ok (settings, position)
      | some (length, .update f, t) => readFrom fuel (f settings) (position + 2 + length) t
      | some (length, .limit f, t) =>
        let start := position + 2 + length
        let (n, count, u) := limitDigits 0 0 t
        if count = 0 then .error (.badVerb, start)
        else match u with
          | b :: u =>
            if b.toNat = 41 then readFrom fuel (f settings n) (start + count + 1) u
            else .error (.badVerb, start + count + 1)
          | [] => .error (.badVerb, start + count + 1)

/-- The settings that a pattern begins with, and how many bytes they take. -/
def read (bytes : List UInt8) : Except (Flaw × Nat) (Settings × Nat) :=
  readFrom (bytes.length + 1) {} 0 bytes

end Settings

end RuleRegex
