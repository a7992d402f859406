import RuleRegex.Text.Quoted
import RuleRegex.Text.Utf8

/-!
# Pattern sources

A source is what a rule says of a regular expression: the bytes of its pattern, which need not be valid
UTF-8, and whether case counts.

## Main definitions

* `Source` — a pattern and its case flag.
* `Source.before` — the order of sources: by pattern bytes, then the caseless one first.
* `Source.sorted`, `Source.distinctCount` — lists of sources in order, and as sets.
* `Source.make` — a source from values that may be of another kind.
-/

namespace RuleRegex

abbrev Bytes := List UInt8

structure Source where
  pattern : Bytes
  caseSensitive : Bool := true
  deriving DecidableEq, Repr, Inhabited

/-- A value that was to be of some kind: it is, or it is of another kind. -/
inductive Given (α : Type) where
  | proper (a : α)
  | improper (kind : String)

namespace Source

def ofText (text : List Char) (caseSensitive : Bool) : Source := ⟨Utf8.encode text, caseSensitive⟩

def text (s : Source) : List Char := Utf8.decode s.pattern

inductive Misfit where
  | pattern (kind : String)
  | flag
  deriving DecidableEq, Repr

def Misfit.message : Misfit → String
  | pattern kind =>
    "pattern must be bytes, not " ++ kind ++ "; use RegexSource.from_text() for text patterns"
  | flag => "case_sensitive must be a bool"

/-- The source of a pattern and a flag, either of which may be of another kind. -/
def make : Given Bytes → Given Bool → Except Misfit Source
  | .improper kind, _ => .error (.pattern kind)
  | .proper _, .improper _ => .error .flag
  | .proper p, .proper b => .ok ⟨p, b⟩

/-- The order of byte sequences: at the first difference, and a proper beginning first. -/
def bytesBefore : Bytes → Bytes → Bool
  | [], [] => false
  | [], _ :: _ => true
  | _ :: _, [] => false
  | a :: as, b :: bs => if a = b then bytesBefore as bs else a.toNat < b.toNat

def before (a b : Source) : Bool :=
  if a.pattern = b.pattern then !a.caseSensitive && b.caseSensitive
  else bytesBefore a.pattern b.pattern

/-- Whether a source comes before another one or is equal to it. -/
def atMost (a b : Source) : Bool :=
  if a.pattern = b.pattern then !a.caseSensitive || b.caseSensitive
  else bytesBefore a.pattern b.pattern

def sorted (sources : List Source) : List Source := sources.mergeSort atMost

def distinctCount (sources : List Source) : Nat := sources.eraseDups.length

def flagWord (b : Bool) : String := if b then "True" else "False"

def display (s : Source) : String :=
  let content := String.ofList (Quoted.bytes s.pattern)
  let quote := String.singleton (Quoted.quoteFor (s.pattern.contains 39) (s.pattern.contains 34))
  "RegexSource(pattern=b" ++ quote ++ content ++ quote ++ ", case_sensitive=" ++
    flagWord s.caseSensitive ++ ")"

end Source

end RuleRegex
