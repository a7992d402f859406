import RuleRegex.Pattern.Bracket

/-!
# Reading patterns

A pattern is read item by item. The groups that are open are kept on a stack, each with what stood
before it.

## Main definitions

* `Options` — what option letters set.
* `Reader` — what has been read so far.
* `Reader.step` — reads one item.
* `Read.nodes` — reads a pattern.
-/

namespace RuleRegex

structure Options where
  caseless : Bool := false
  multiline : Bool := false
  dotAll : Bool := false
  extended : Bool := false
  extendedMore : Bool := false
  noCapture : Bool := false
  sharedNames : Bool := false
  ungreedy : Bool := false
  deriving DecidableEq, Repr, Inhabited

/-- What a closing parenthesis makes of the branches before it. -/
inductive Opening where
  | group (kind : GroupKind) (position : Nat)
  | atomicScriptRun
  /-- A conditional group whose condition has been read. -/
  | conditional (c : Condition) (position : Nat) (test : List Branch)
  /-- A conditional group whose condition is a lookaround that is still to come. -/
  | undecided
  /-- The lookaround that is the condition of the group around it. -/
  | test (d : Direction) (negated : Bool) (position : Nat)
  deriving Inhabited

/-- A group that is open: what it will be, what stood before it, and what to go back to. -/
structure OpenGroup where
  opening : Opening
  items : List Node
  branches : List Branch
  options : Options
  /-- In a group whose branches number their groups alike: the count of groups before it, and the
  highest count at the end of a branch. -/
  reset : Option (Nat × Nat)
  deriving Inhabited

/-- What has been read so far. Items and branches stand last first. -/
structure Reader where
  items : List Node := []
  branches : List Branch := []
  opens : List OpenGroup := []
  options : Options := {}
  groupCount : Nat := 0
  names : List (List Nat × Nat) := []
  sharedNumbers : Bool := false
  /-- Where low-numbered groups were first referred to. -/
  firstReferences : List (Nat × Nat) := []
  quantifiable : Bool := false
  /-- Whether the last item was a quantifier that can be modified. -/
  quantified : Bool := false
  /-- How many of the last items are the verb that accepts, with its name. -/
  accepting : Nat := 0
  /-- Two after the start of a condition that must be a lookaround, one after a callout there. -/
  expecting : Nat := 0
  literal : Bool := false
  deriving Inhabited

structure ReadContext where
  settings : Settings
  length : Nat

abbrev Progress := Except Halt (Reader × Symbols)

def deepestNesting : Nat := 250

def Node.mapCount (f : Count → Count) : Node → Node
  | .single s c => .single s (f c)
  | .backreference r i p c => .backreference r i p (f c)
  | .recursion r p c => .recursion r p (f c)
  | .group k p bs c => .group k p bs (f c)
  | .conditional d p t bs c => .conditional d p t bs (f c)
  | n => n

/-- How many symbols of what is left are a line break. -/
def LineBreak.length? (l : LineBreak) (s : Symbols) : Option Nat :=
  match s with
  | [] => none
  | a :: rest =>
    let c := a.code
    let pair : Bool := c == 13 && Symbols.startsWith '\n' rest
    match l with
    | .cr => if c = 13 then some 1 else none
    | .lf => if c = 10 then some 1 else none
    | .nul => if c = 0 then some 1 else none
    | .crlf => if pair then some 2 else none
    | .anyCrlf => if pair then some 2 else if c = 10 ∨ c = 13 then some 1 else none
    | .any =>
      if pair then some 2 else if Unicode.isVerticalBlank c then some 1 else none

def afterLine (l : LineBreak) : Symbols → Symbols
  | [] => []
  | a :: rest =>
    match l.length? (a :: rest) with
    | some n => rest.drop (n - 1)
    | none => afterLine l rest

def isPatternBlank (c : Nat) : Bool :=
  (9 ≤ c && c ≤ 13) || c == 32 || c == 0x85 || c == 0x200E || c == 0x200F || c == 0x2028 || c == 0x2029

namespace Reader

def push (r : Reader) (n : Node) (quantifiable : Bool := true) : Reader :=
  { r with items := n :: r.items, quantifiable }

def pushChar (r : Reader) (c : Nat) : Reader := r.push (.single (.char c r.options.caseless) {})

def pushSingle (r : Reader) (s : Single) : Reader := r.push (.single s {})

def openGroup (r : Reader) (opening : Opening) : Reader :=
  { r with
    items := [], branches := []
    opens := ⟨opening, r.items, r.branches, r.options, none⟩ :: r.opens }

/-- The reader inside a new capture group, or inside a group that does not capture if the groups
without names do not. -/
def openCapture (r : Reader) (s : Symbols) : Progress :=
  if r.options.noCapture then .ok (r.openGroup (.group .plain 0), s)
  else if Read.largestGroup ≤ r.groupCount then stop .tooManyGroups s
  else
    let n := r.groupCount + 1
    .ok ({ r.openGroup (.group (.capture n) 0) with groupCount := n }, s)

def openLook (r : Reader) (expecting : Nat) (d : Direction) (negated : Bool) (position : Nat) : Reader :=
  if 0 < expecting then r.openGroup (.test d negated position)
  else r.openGroup (.group (.look d negated) position)

def allBranches (r : Reader) : List Branch := (r.items.reverse :: r.branches).reverse

def nextBranch (r : Reader) : Reader :=
  let r := { r with items := [], branches := r.items.reverse :: r.branches }
  match r.opens with
  | o :: os =>
    match o.reset with
    | some (start, highest) =>
      { r with
        groupCount := start
        opens := { o with reset := some (start, max highest r.groupCount) } :: os }
    | none => r
  | [] => r

/-- The items after a group has been closed, the group last first among them; and whether it can be
repeated. -/
def closed (o : OpenGroup) (branches : List Branch) : List Node :=
  match o.opening with
  | .group kind position => .group kind position branches {} :: o.items
  | .atomicScriptRun =>
    .group .scriptRun 0 [[.group .atomic 0 branches {}]] {} :: o.items
  | .conditional c position test => .conditional c position test branches {} :: o.items
  | .undecided => .conditional (.constant false) 0 [] branches {} :: o.items
  | .test _ _ _ => o.items

/-- The reader after a closing parenthesis. `s` is what is left at that parenthesis. -/
def closeGroup (r : Reader) (s : Symbols) : Progress :=
  match r.opens with
  | [] => stop .unopenedGroup s
  | o :: os =>
    let branches := r.allBranches
    let groupCount := match o.reset with
      | some (_, highest) => max highest r.groupCount
      | none => r.groupCount
    let r := { r with
      items := closed o branches, branches := o.branches, opens := os, options := o.options
      groupCount, quantifiable := true }
    match o.opening, os with
    | .test d negated position, u :: us =>
      .ok ({ r with
        quantifiable := false
        opens := { u with opening := .conditional (.look d negated position) 0 branches } :: us }, s.drop 1)
    | _, _ => .ok (r, s.drop 1)

/-- The position that a reference to a numbered group is reported at: for low numbers the first one. -/
def referencePosition (r : Reader) (group position : Nat) : Nat × Reader :=
  if group < 10 then
    match r.firstReferences.lookup group with
    | some p => (p, r)
    | none => (position, { r with firstReferences := (group, position) :: r.firstReferences })
  else (position, r)

def plainGreed (r : Reader) : Greed := if r.options.ungreedy then .lazy else .greedy

def otherGreed (r : Reader) : Greed := if r.options.ungreedy then .greedy else .lazy

/-- The reader with its last item repeated. `before` is what was left at the quantifier, `after` what
is left now; the verb that accepts is repeated as a group. -/
def quantify (r : Reader) (can : Bool) (least : Nat) (most : Option Nat) (before after : Symbols) :
    Progress :=
  if !can then stop .nothingToRepeat (Read.lastBefore before after)
  else
    let items := if r.accepting = 0 then r.items
      else .group .plain 0 [(r.items.take r.accepting).reverse] {} :: r.items.drop r.accepting
    match items with
    | [] => stop .nothingToRepeat before
    | n :: items =>
      let n := n.mapCount fun _ => { least, most, greed := r.plainGreed }
      .ok ({ r with items := n :: items, quantified := true }, after)

def modify (r : Reader) (g : Greed) : Reader :=
  match r.items with
  | [] => r
  | n :: items => { r with items := n.mapCount (fun c => { c with greed := g }) :: items }

def kindSingle (unicode : Bool) (k : CharKind) (negated : Bool) : Single :=
  match if unicode then Read.kindProperty? k else none with
  | some p => .property p negated
  | none => .kind k negated

def anchorOf? (letter : Char) : Option Anchor :=
  [('A', .absoluteStart), ('G', .searchStart), ('K', .keepOut), ('B', .notWordBoundary),
    ('b', .wordBoundary), ('Z', .finishLine), ('z', .absoluteEnd)].lookup letter

def callNumber (r : Reader) (n : Nat) (s : Symbols) (x : ReadContext) : Reader × Symbols :=
  (r.push (.recursion (.number n) (s.position x.length) {}), s.drop 1)

/-- After a backslash and one of the letters for references by name. -/
def namedReference (x : ReadContext) (r : Reader) (letter : Char) (s : Symbols) : Progress :=
  match s with
  | a :: rest =>
    if !a.isIn ['\x7b', '<', '\''] then
      stop (if letter = 'k' then .badNamedReference else .badGroupEscape) s
    else
      let terminator := if a.is '<' then '>' else if a.is '\'' then '\'' else '\x7d'
      let braced := a.is '\x7b'
      let byName : Progress := do
        let (name, position, t) ← Read.groupName terminator rest
        let reference := Reference.name name
        let node := if letter = 'k' || braced then
            Node.backreference reference r.options.caseless position {}
          else .recursion reference position {}
        return (r.push node, t)
      if letter = 'g' && !braced then do
        match ← Read.groupNumber? r.groupCount rest with
        | some (n, t) =>
          if Symbols.startsWith terminator t then return r.callNumber n t x
          else stop .badGroupEscape s
        | none => byName
      else byName
  | [] => stop (if letter = 'k' then .badNamedReference else .badGroupEscape) []

def backslash (x : ReadContext) (r : Reader) (s : Symbols) : Progress := do
  let (e, t) ← Read.escape false r.groupCount s
  match e with
  | .char c => return (r.pushChar c, t)
  | .backreference n =>
    let (position, r) := r.referencePosition n (t.position x.length - 1)
    return (r.push (.backreference (.number n) r.options.caseless position {}), t)
  | .special letter =>
    match anchorOf? letter with
    | some a => return (r.push (.anchor a) false, t)
    | none =>
      match Read.kindOf? letter with
      | some (k, negated) => return (r.pushSingle (kindSingle x.settings.unicodeClasses k negated), t)
      | none =>
        if letter = 'C' then return (r.pushSingle .byte, t)
        else if letter = 'N' then return (r.pushSingle .inLine, t)
        else if letter = 'R' then return (r.pushSingle .newline, t)
        else if letter = 'X' then return (r.pushSingle .cluster, t)
        else if letter = 'p' ∨ letter = 'P' then
          let (p, circumflex, t) ← Read.property t
          let negated : Bool := (letter = 'P') != circumflex
          return (r.pushSingle (if p = .any && !negated then .any else .property p negated), t)
        else namedReference x r letter t

/-- A bracketed class, or one of the two that stand for the edges of words. -/
def bracket (x : ReadContext) (r : Reader) (opening : Symbol) (s : Symbols) : Progress := do
  let word := Node.single (kindSingle x.settings.unicodeClasses .word false) {}
  let edge (d : Direction) (t : Symbols) : Progress :=
    .ok ((r.push (.anchor .wordBoundary)).push (.group (.look d false) 0 [[word]] {}), t)
  match Symbols.after? ['[', ':', '<', ':', ']', ']'] s with
  | some t => edge .ahead t
  | none =>
    match Symbols.after? ['[', ':', '>', ':', ']', ']'] s with
    | some t => edge .behind t
    | none =>
      let context := ⟨r.options.extendedMore, x.settings.unicodeClasses, r.groupCount⟩
      let (item, t) ← Read.bracket context r.options.caseless opening s
      return (r.pushSingle item, t)

def assertionNames : List (String × Opening) :=
  [("pla", .group (.look .ahead false) 0), ("plb", .group (.look .behind false) 0),
    ("napla", .group (.lookAgain .ahead) 0), ("naplb", .group (.lookAgain .behind) 0),
    ("nla", .group (.look .ahead true) 0), ("nlb", .group (.look .behind true) 0),
    ("positive_lookahead", .group (.look .ahead false) 0),
    ("positive_lookbehind", .group (.look .behind false) 0),
    ("non_atomic_positive_lookahead", .group (.lookAgain .ahead) 0),
    ("non_atomic_positive_lookbehind", .group (.lookAgain .behind) 0),
    ("negative_lookahead", .group (.look .ahead true) 0),
    ("negative_lookbehind", .group (.look .behind true) 0),
    ("atomic", .group .atomic 0), ("sr", .group .scriptRun 0), ("script_run", .group .scriptRun 0),
    ("asr", .atomicScriptRun), ("atomic_script_run", .atomicScriptRun)]

/-- A spelled-out assertion or group, after the asterisk. -/
def spelledOut (r : Reader) (expecting : Nat) (s : Symbols) : Progress := do
  let (name, t) ← Read.asciiName s
  match t with
  | a :: u =>
    if !a.is ':' then stop .unknownAssertion t
    else match assertionNames.lookup name with
      | none => stop .unknownAssertion t
      | some opening =>
        match opening with
        | .group (.look d negated) _ => return (r.openLook expecting d negated (a.position - 3), u)
        | .group (.lookAgain d) _ =>
          if 0 < expecting then stop .atomicAssertionExpected t
          else return (r.openGroup (.group (.lookAgain d) (a.position - 3)), u)
        | opening =>
          if 0 < expecting then stop .assertionExpected t else return (r.openGroup opening, u)
  | [] => stop .unknownAssertion []

def longestVerbName : Nat := 255

/-- The name of a verb up to the closing parenthesis. -/
def verbName (s : Symbols) : Except Halt (List Nat × Symbols) :=
  let name := (s.takeWhile (!·.is ')')).map Symbol.code
  match s.dropWhile (!·.is ')') with
  | [] => stop .badVerb []
  | a :: t => if longestVerbName < Read.nameLength name then stop .verbNameTooLong (a :: t)
    else .ok (name, t)

def verbItems? (verb : String) (name : Option (List Nat)) : Option (List Node) :=
  let marked (n : Node) : List Node := match name with
    | some m => [n, .verb (.mark m)]
    | none => [n]
  if verb = "" ∨ verb = "MARK" then some [.verb (.mark (name.getD []))]
  else if verb = "ACCEPT" then some (marked .accept)
  else if verb = "F" ∨ verb = "FAIL" then some (marked (.verb .fail))
  else if verb = "COMMIT" then some [.verb (.commit name)]
  else if verb = "PRUNE" then some [.verb (.prune name)]
  else if verb = "SKIP" then some [.verb (match name with | some m => .skipTo m | none => .skip)]
  else if verb = "THEN" then some [.verb (.onward name)]
  else none

def verb (r : Reader) (s : Symbols) : Progress := do
  let (verb, t) ← Read.asciiName s
  match t with
  | [] => stop .badVerb []
  | a :: u =>
    if !a.isIn [':', ')'] then stop .badVerb t
    else if (verbItems? verb none).isNone then stop .badVerb t
    else
      let empty := a.is ':' && Symbols.startsWith ')' u
      let add (name : Option (List Nat)) (t : Symbols) : Progress :=
        let items := (verbItems? verb name).getD []
        .ok ({ r with
          items := items ++ r.items
          quantifiable := verb = "ACCEPT"
          accepting := if verb = "ACCEPT" then items.length else 0 }, t)
      if a.is ':' && !empty then
        let (name, t) ← verbName u
        add (some name) t
      else if verb = "" ∨ verb = "MARK" then stop .markWithoutName (if empty then u else t)
      else add none (if empty then u.drop 1 else u)

def setOption (o : Options) (letter : Char) (on : Bool) : Options :=
  match letter with
  | 'i' => { o with caseless := on }
  | 'm' => { o with multiline := on }
  | 'n' => { o with noCapture := on }
  | 's' => { o with dotAll := on }
  | 'J' => { o with sharedNames := on }
  | 'U' => { o with ungreedy := on }
  | _ => o

structure OptionRequest where
  on : List Char := []
  off : List Char := []
  /-- How often the letter for extended patterns was doubled. -/
  moreOn : Bool := false
  moreOff : Bool := false
  negative : Bool := false
  hyphenAllowed : Bool := true

/-- The option letters up to a closing parenthesis or a colon. -/
def optionLetters (q : OptionRequest) : Symbols → Except Halt (OptionRequest × Symbols)
  | [] => stop .unclosedGroup []
  | a :: rest =>
    if a.isIn [')', ':'] then .ok (q, a :: rest)
    else if a.is '-' then
      if q.hyphenAllowed then optionLetters { q with negative := true, hyphenAllowed := false } rest
      else stop .badHyphen (a :: rest)
    else if a.isIn ['J', 'i', 'm', 'n', 's', 'U', 'x'] then
      let c := Char.ofNat a.code
      -- A doubled letter counts once, and asks for more than a single one.
      let again := a.is 'x' && Symbols.startsWith 'x' rest
      if q.negative then
        optionLetters { q with off := c :: q.off, moreOff := q.moreOff || again } rest
      else optionLetters { q with on := c :: q.on, moreOn := q.moreOn || again } rest
    else stop .unknownOption (a :: rest)

def applyRequest (o : Options) (q : OptionRequest) : Options :=
  let extendedOn := q.on.contains 'x'
  let extendedOff := q.off.contains 'x'
  let o := q.on.foldl (setOption · · true) o
  let o := q.off.foldl (setOption · · false) o
  { o with
    extended := (o.extended || extendedOn) && !extendedOff
    extendedMore := (o.extendedMore || q.moreOn) && !((extendedOn && !q.moreOn) || extendedOff) }

/-- Options, or a group that begins with them. -/
def optionGroup (r : Reader) (s : Symbols) : Progress := do
  let reset := Symbols.startsWith '^' s
  let base : Options := if reset then
      { r.options with
        caseless := false, multiline := false, noCapture := false, dotAll := false
        extended := false, extendedMore := false }
    else r.options
  let (q, t) ← optionLetters { hyphenAllowed := !reset } (if reset then s.drop 1 else s)
  let o := applyRequest base q
  if Symbols.startsWith ')' t then return ({ r with options := o }, t.drop 1)
  else return ({ r.openGroup (.group .plain 0) with options := o }, t.drop 1)

/-- The start of a named capture group. `s` is what follows the opening delimiter. -/
def defineName (r : Reader) (terminator : Char) (s : Symbols) : Progress := do
  let (name, _, t) ← Read.groupName terminator s
  if Read.largestGroup ≤ r.groupCount then stop .tooManyGroups t
  else if 10000 ≤ r.names.length then stop .tooManyNames t
  else
    let n := r.groupCount + 1
    -- The first name that is the same or has the same number decides, unless names can be shared.
    let fault : Option (Option Flaw) := r.names.findSome? fun (m, i) =>
      if m = name then
        if i = n then some none else if r.options.sharedNames then none else some (some .duplicateName)
      else if i = n then some (some .differentNames)
      else none
    let opened := { r.openGroup (.group (.capture n) 0) with groupCount := n }
    match fault with
    | some (some flaw) => stop flaw t
    | some none => return (opened, t)
    | none => return ({ opened with names := r.names ++ [(name, n)] }, t)

/-- A call of a group by name. `s` is what follows the character before the name. -/
def callName (r : Reader) (s : Symbols) : Progress := do
  let (name, position, t) ← Read.groupName ')' s
  return (r.push (.recursion (.name name) position {}), t)

def call (x : ReadContext) (r : Reader) (s : Symbols) : Progress := do
  match ← Read.groupNumber? r.groupCount s with
  | none => stop .unclosedGroup s
  | some (n, t) =>
    if Symbols.startsWith ')' t then return r.callNumber n t x else stop .unclosedGroup t

def calloutDelimiters : List (Char × Char) :=
  [('\x60', '\x60'), ('\'', '\''), ('"', '"'), ('^', '^'), ('%', '%'), ('#', '#'), ('$', '$'),
    ('\x7b', '\x7d')]

/-- What follows the closing delimiter of a text in a callout, which is doubled inside. -/
def afterDelimited? (delimiter : Char) : Symbols → Option Symbols
  | [] => none
  | [a] => if a.is delimiter then some [] else none
  | a :: b :: rest =>
    if a.is delimiter then if b.is delimiter then afterDelimited? delimiter rest else some (b :: rest)
    else afterDelimited? delimiter (b :: rest)

/-- The number of a callout, which is at most 255. -/
def calloutNumber (n : Nat) : Symbols → Except Halt Symbols
  | [] => .ok []
  | a :: rest =>
    if a.isDigit then
      let n := 10 * n + (a.code - 48)
      if 255 < n then stop .calloutTooBig rest else calloutNumber n rest
    else .ok (a :: rest)

def callout (r : Reader) (expecting : Nat) (s : Symbols) : Progress := do
  let t ← match s with
    | [] => stop .unclosedGroup []
    | a :: rest =>
      if a.is ')' || a.isDigit then calloutNumber 0 s
      else match calloutDelimiters.lookup (Char.ofNat a.code) with
        | none => stop .unknownDelimiter s
        | some delimiter =>
          match afterDelimited? delimiter rest with
          | some t => .ok t
          | none => stop .unterminatedCallout s
  if Symbols.startsWith ')' t then
    return ({ r.push .callout false with expecting := expecting - 1 }, t.drop 1)
  else stop .unclosedCallout t

/-- The release that conditions on it are compared with. -/
def release : Nat × Nat := (10, 42)

def versionCondition (s : Symbols) : Except Halt (Condition × Symbols) := do
  let orLater := Symbols.startsWith '>' s
  let t := if orLater then s.drop 1 else s
  match t with
  | a :: u =>
    if !a.is '=' then stop .badVersion t
    else match ← Read.number? 1000 .badVersion u with
      | none => stop .badVersion u
      | some (major, v) =>
        let check (minor : Nat) (t : Symbols) : Except Halt (Condition × Symbols) :=
          let holds : Bool := if orLater then
              major < release.1 || (major == release.1 && minor ≤ release.2)
            else major == release.1 && minor == release.2
          .ok (.constant holds, t)
        match v with
        | [] => stop .badVersion []
        | d :: v =>
          if !d.is '.' then check 0 (d :: v)
          else match v with
            | tens :: w =>
              if !tens.isDigit then stop .badVersion (tens :: w)
              else
                let minor := 10 * (tens.code - 48)
                match w with
                | [] => stop .badVersion []
                | ones :: z =>
                  let (minor, z) := if ones.isDigit then (minor + (ones.code - 48), z) else (minor, w)
                  if Symbols.startsWith ')' z then check minor z else stop .badVersion z
            | [] => stop .badVersion []
  | [] => stop .badVersion []

def nameCondition (name : List Nat) : Condition :=
  if name = "DEFINE".toList.map Char.toNat then .define
  else match name with
    | c :: ds =>
      if c = 82 ∧ ds.all (fun d => 48 ≤ d && d < 58) then .nameOrRecursion name
      else .group (.name name)
    | [] => .group (.name name)

/-- A condition that is no lookaround, where it is reported, and what is left at the parenthesis that
closes it. -/
def condition (x : ReadContext) (r : Reader) (s : Symbols) : Except Halt (Condition × Nat × Symbols) := do
  match ← Read.groupNumber? r.groupCount s with
  | some (n, t) =>
    if n = 0 then stop .noSuchGroup t
    else return (.group (.number n), t.position x.length - 2, t)
  | none =>
    match Symbols.after? "VERSION".toList s with
    | some t =>
      if 3 ≤ t.length ∧ !Symbols.startsWith ')' t then
        let (c, u) ← versionCondition t
        return (c, 0, u)
      else plainName
    | none => plainName
where
  plainName : Except Halt (Condition × Nat × Symbols) := do
    match Symbols.after? ['R', '&'] s with
    | some t =>
      let (name, position, u) ← Read.groupName ')' t
      return (.recursion (.name name), position, lastBefore t u)
    | none =>
      match s with
      | a :: t =>
        if a.is '<' || a.is '\'' then
          let (name, position, u) ← Read.groupName (if a.is '<' then '>' else '\'') t
          return (.group (.name name), position, u)
        else
          let (name, position, u) ← Read.groupName ')' s
          return (nameCondition name, position, lastBefore s u)
      | [] => stop .unclosedGroup []
  lastBefore (before after : Symbols) : Symbols := Read.lastBefore before after

/-- The start of a conditional group. `opening` is the parenthesis of its condition and `s` what follows
that. -/
def conditional (x : ReadContext) (r : Reader) (opening : Symbol) (s : Symbols) : Progress := do
  match s with
  | [] => stop .unclosedGroup []
  | a :: _ =>
    if a.isIn ['?', '*'] then
      return ({ r.openGroup .undecided with expecting := 2 }, opening :: s)
    else
      let (c, position, t) ← condition x r s
      if Symbols.startsWith ')' t then
        return (r.openGroup (.conditional c position []), t.drop 1)
      else stop .unclosedCondition t

/-- What begins with a parenthesis and a question mark. `s` is what follows these, `position` where the
parenthesis is. -/
def special (x : ReadContext) (r : Reader) (expecting position : Nat) (s : Symbols) : Progress :=
  match s with
  | [] => stop .unclosedGroup []
  | a :: rest =>
    if a.is '|' then
      let r := r.openGroup (.group .plain 0)
      let opens := match r.opens with
        | o :: os => { o with reset := some (r.groupCount, r.groupCount) } :: os
        | [] => []
      .ok ({ r with opens, sharedNumbers := true }, rest)
    else if a.is 'P' then
      match rest with
      | [] => stop .unclosedGroup []
      | b :: t =>
        if b.is '<' then r.defineName '>' t
        else if b.is '>' then r.callName t
        else if b.is '=' then do
          let (name, position, t) ← Read.groupName ')' t
          return (r.push (.backreference (.name name) r.options.caseless position {}), t)
        else stop .unknownNameSyntax rest
    else if a.is 'R' then
      if Symbols.startsWith ')' rest then .ok (r.callNumber 0 rest x) else stop .unclosedRecursion rest
    else if a.is '+' then
      match rest with
      | b :: _ => if b.isDigit then r.call x s else stop .digitExpected s
      | [] => stop .digitExpected s
    else if a.isDigit || (a.is '-' && (rest.head?.map Symbol.isDigit).getD false) then r.call x s
    else if a.is '&' then r.callName rest
    else if a.is 'C' then r.callout expecting rest
    else if a.is '(' then r.conditional x a rest
    else if a.is '>' then .ok (r.openGroup (.group .atomic 0), rest)
    else if a.is '=' then .ok (r.openLook expecting .ahead false 0, rest)
    else if a.is '*' then .ok (r.openGroup (.group (.lookAgain .ahead) 0), rest)
    else if a.is '!' then .ok (r.openLook expecting .ahead true 0, rest)
    else if a.is '<' then
      match rest with
      | b :: t =>
        if b.is '=' then .ok (r.openLook expecting .behind false position, t)
        else if b.is '!' then .ok (r.openLook expecting .behind true position, t)
        else if b.is '*' then .ok (r.openGroup (.group (.lookAgain .behind) position), t)
        else r.defineName '>' rest
      | [] => r.defineName '>' []
    else if a.is '\'' then r.defineName '\'' rest
    else r.optionGroup s

/-- What begins with a parenthesis. `s` is what follows it, `position` where it is. -/
def parenthesis (x : ReadContext) (r : Reader) (expecting position : Nat) (s : Symbols) : Progress :=
  match s with
  | [] => stop .unclosedGroup []
  | a :: rest =>
    if a.is '?' then r.special x expecting position rest
    else if !a.is '*' then r.openCapture s
    else match rest with
      | [] => .ok (r, s)
      | b :: _ =>
        if b.is ')' then .ok (r, s)
        else if b.isLower then r.spelledOut expecting rest
        else r.verb rest

/-- Whether a lookaround, or a callout before one, can begin with the symbol. -/
def beginsLook (expecting : Nat) (a : Symbol) (s : Symbols) : Bool :=
  a.is '(' && match s with
    | b :: c :: d :: _ =>
      if b.is '*' then c.isLower
      else b.is '?' &&
        ((c.is 'C' && expecting == 2) || c.isIn ['=', '!'] || (c.is '<' && d.isIn ['=', '!']))
    | _ => false

/-- The reader after one item, which begins with the symbol `a`. -/
def item (x : ReadContext) (r : Reader) (a : Symbol) (rest : Symbols) : Progress :=
  let can := r.quantifiable
  let expecting := r.expecting
  let quantified := r.quantified
  let accepting := r.accepting
  let r := { r with expecting := 0, quantifiable := false, quantified := false, accepting := 0 }
  let repeated (least : Nat) (most : Option Nat) (after : Symbols) : Progress :=
    ({ r with accepting := accepting } : Reader).quantify can least most (a :: rest) after
      |>.map fun (r, s) => ({ r with accepting := 0 }, s)
  if quantified && a.is '?' then .ok (r.modify r.otherGreed, rest)
  else if quantified && a.is '+' then .ok (r.modify .possessive, rest)
  else if a.is '\\' then r.backslash x rest
  else if a.is '^' then
    .ok (r.push (.anchor (if r.options.multiline then .lineStart else .start)) false, rest)
  else if a.is '$' then
    .ok (r.push (.anchor (if r.options.multiline then .lineEnd else .finish)) false, rest)
  else if a.is '.' then .ok (r.pushSingle (if r.options.dotAll then .any else .inLine), rest)
  else if a.is '*' then repeated 0 none rest
  else if a.is '+' then repeated 1 none rest
  else if a.is '?' then repeated 0 (some 1) rest
  else if a.is '\x7b' then
    match Read.counts? rest with
    | .error h => .error h
    | .ok none => .ok (r.pushChar a.code, rest)
    | .ok (some (least, most, after)) => repeated least most after
  else if a.is '[' then r.bracket x a rest
  else if a.is '(' then r.parenthesis x expecting a.position rest
  else if a.is '|' then .ok (r.nextBranch, rest)
  else if a.is ')' then r.closeGroup (a :: rest)
  else .ok (r.pushChar a.code, rest)

/-- The reader after one item, or after something that does not count. -/
def step (x : ReadContext) (r : Reader) (a : Symbol) (rest : Symbols) : Progress :=
  if deepestNesting < r.opens.length then stop .nestedTooDeeply (a :: rest)
  else if r.literal then
    if a.is '\\' && Symbols.startsWith 'E' rest then .ok ({ r with literal := false }, rest.drop 1)
    else if 0 < r.expecting then stop .assertionExpected rest 1
    else .ok ({ r.pushChar a.code with quantified := false, accepting := 0 }, rest)
  else if a.is '\\' && Symbols.startsWith 'Q' rest then .ok ({ r with literal := true }, rest.drop 1)
  else if a.is '\\' && Symbols.startsWith 'E' rest then .ok (r, rest.drop 1)
  else if r.options.extended && isPatternBlank a.code then .ok (r, rest)
  else if r.options.extended && a.is '#' then .ok (r, afterLine x.settings.lineBreak rest)
  else match if a.is '(' then Symbols.after? ['?', '#'] rest else none with
    | some t =>
      match t.dropWhile (!·.is ')') with
      | [] => stop .unclosedComment []
      | _ :: u => .ok (r, u)
    | none =>
      if 0 < r.expecting && !beginsLook r.expecting a rest then stop .assertionExpected rest 1
      else r.item x a rest

def steps (x : ReadContext) : Nat → Reader → Symbols → Except Halt Reader
  | 0, r, _ => .ok r
  | _ + 1, r, [] => .ok r
  | fuel + 1, r, a :: rest => do
    let (r, s) ← r.step x a rest
    steps x fuel r s

end Reader

namespace Read

/-- The pattern of symbols, with the settings that stood before them. -/
def nodes (settings : Settings) (caseless : Bool) (length : Nat) (s : Symbols) :
    Except Halt Pattern := do
  let r ← Reader.steps ⟨settings, length⟩ (s.length + 1) { options := { caseless } } s
  if r.opens.isEmpty then
    return {
      branches := r.allBranches
      settings
      groupCount := r.groupCount
      names := r.names
      sharedNumbers := r.sharedNumbers }
  else stop .unclosedGroup []

end Read

end RuleRegex
