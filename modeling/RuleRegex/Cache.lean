import RuleRegex.Regex

/-!
# Caches of compiled regexes

A cache keeps the regexes of the sources used last. Every compiled regex has an identity, so that it can
be said which one a cache returns.

## Main definitions

* `Object` — a compiled regex with its identity.
* `Cache` — entries from least to most recently used, with counts of hits and misses.
* `Cache.find?`, `Cache.hit`, `Cache.insert?` — looking up, using and adding an entry.
* `Cache.evicted?` — the least recently used entries are dropped until the others fit.
-/

namespace RuleRegex

structure Object (Code : Type) where
  identity : Nat
  regex : Regex Code

/-- A bounded cache. Its entries stand from least to most recently used. -/
structure Cache (Code : Type) where
  maxSize : Int := 512
  entries : List (Source × Object Code) := []
  hits : Nat := 0
  misses : Nat := 0

namespace Cache

variable {Code : Type}

def sources (c : Cache Code) : List Source := c.entries.map (·.1)

def find? (c : Cache Code) (s : Source) : Option (Object Code) := c.entries.lookup s

/-- The entries with that of a source added or moved to the end. -/
def renewed (entries : List (Source × Object Code)) (s : Source) (o : Object Code) :
    List (Source × Object Code) :=
  entries.filter (·.1 ≠ s) ++ [(s, o)]

def hit (c : Cache Code) (s : Source) (o : Object Code) : Cache Code :=
  { c with entries := renewed c.entries s o, hits := c.hits + 1 }

/-- The cache after a miss, before anything is compiled. -/
def miss (c : Cache Code) : Cache Code := { c with misses := c.misses + 1 }

/-- The last entries that fit into a size. -/
def trimmed (size : Nat) (entries : List (Source × Object Code)) : List (Source × Object Code) :=
  entries.drop (entries.length - size)

/-- The entries that are left when the least recently used ones are dropped until the others fit into a
size. Into a negative size nothing fits, and when all entries are dropped there is none left to drop. -/
def evicted? (size : Int) : List (Source × Object Code) → Option (List (Source × Object Code))
  | [] => if 0 ≤ size then some [] else none
  | e :: entries =>
    if ((e :: entries).length : Int) ≤ size then some (e :: entries) else evicted? size entries

/-- The cache with a new entry, and without the least recently used ones that do not fit. -/
def insert? (c : Cache Code) (s : Source) (o : Object Code) : Option (Cache Code) :=
  (evicted? c.maxSize (renewed c.entries s o)).map fun entries => { c with entries }

/-- The cache after it could not be emptied enough. -/
def emptied (c : Cache Code) : Cache Code := { c with entries := [] }

def clear (c : Cache Code) : Cache Code := { maxSize := c.maxSize }

end Cache

end RuleRegex
