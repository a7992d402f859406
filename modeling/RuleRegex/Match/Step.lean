import RuleRegex.Match.State
import RuleRegex.Subject.Same
import RuleRegex.Subject.ScriptRun

/-!
# Steps of matching

## Main definitions

* `Task` — what is matched against what, and what matching may use up.
* `Task.leave` — leaves a point behind and goes on from a new one.
* `Task.step` — runs the instruction at a point.
* `Task.resume` — reports a verdict to the point left behind last.
-/

namespace RuleRegex

structure Task where
  program : Program
  subject : Subject
  matchLimit : Nat
  depthLimit : Nat
  /-- In units of 1024. -/
  heapLimit : Nat
  /-- How much storage a point takes. -/
  pointSize : Nat
  /-- How many skips to a name are passed over. -/
  ignoredSkips : Nat

namespace Task

/-- The storage that is there after more is asked for, if that is allowed. -/
def grown? (x : Task) (storage : Nat) : Option Nat :=
  let more := storage * 2
  if x.heapLimit < more / 1024 then
    let most := x.heapLimit * 1024 / x.pointSize * x.pointSize
    if most ≤ storage then none else some most
  else some more

/-- Leaves the point behind and goes on at another place and position. A group mark says that a group
begins. -/
def leave (x : Task) (t : Thread) (r : Resume) (place position : Nat)
    (mark : Option GroupMark := none) : Next :=
  let p := t.point
  let depth := p.depth + 1
  let storage := if t.storage ≤ (depth + 1) * x.pointSize then x.grown? t.storage else some t.storage
  match storage with
  | none => .breach .heapLimit
  | some storage =>
    if x.matchLimit ≤ t.made then .breach .matchLimit
    else if x.depthLimit ≤ depth then .breach .depthLimit
    else
      let stack := Stack.left r p t.stack
      let point := match mark with
        | none => { p with place, position, depth }
        | some (.call n) =>
          { p with place, position, depth, calling := some n, group := some (.call n, stack) }
        | some m => { p with place, position, depth, group := some (m, stack) }
      .go { t with point, stack, made := t.made + 1, storage }

def goTo (t : Thread) (place position : Nat) : Next :=
  .go { t with point := { t.point with place, position } }

def fail (t : Thread) : Next := .report .noMatch t

/-! ### Anchors -/

def isWord (x : Task) (c : Nat) : Bool :=
  if x.program.settings.unicodeClasses then Unicode.isWord c else CharKind.word.holds c

def isWordBoundary (x : Task) (i : Nat) : Bool :=
  let before := (x.subject.codeBefore? i).any x.isWord
  let after := (x.subject.char? i).any fun (c, _) => x.isWord c
  before != after

def holds (x : Task) (a : Anchor) (i : Nat) : Bool :=
  let s := x.subject
  let l := x.program.settings.lineBreak
  match a with
  | .start | .absoluteStart | .searchStart => i == 0
  | .lineStart => i == 0 || (i != s.size && s.lineBreakBefore l i)
  | .finish | .finishLine =>
    s.size ≤ i || (s.lineBreak? l i).any fun n => i + n == s.size
  | .absoluteEnd => s.size ≤ i
  | .lineEnd => s.size ≤ i || (s.lineBreak? l i).isSome
  | .wordBoundary => x.isWordBoundary i
  | .notWordBoundary => !x.isWordBoundary i
  | .keepOut => true

/-! ### Repeated items -/

/-- How often an item can be taken beyond the least number; without a bound it is as often as there are
bytes. -/
def further (x : Task) (c : Count) : Nat :=
  match c.most with
  | some most => most - c.least
  | none => x.subject.size + 1

def lazily (c : Count) : Option Nat := c.most.map (· - c.least)

/-- Whether the least number of a repeated class leaves a point behind. -/
def leavesLeast : Matcher → Bool
  | .set _ _ => true
  | _ => false

def takeSeveral (x : Task) (t : Thread) (m : Matcher) (c : Count) : Next :=
  let settings := x.program.settings
  let p := t.point
  match m.repeated? settings x.subject c.least p.position with
  | none => fail t
  | some i =>
    if c.most = some c.least then goTo t (p.place + 1) i
    else match c.greed with
      | .possessive =>
        goTo t (p.place + 1) ((m.positions settings x.subject (x.further c) i []).headD i)
      | .lazy =>
        x.leave { t with point := { p with position := i } } (.more m (lazily c)) (p.place + 1) i
      | .greedy =>
        match m.positions settings x.subject (x.further c) i [] with
        | [] =>
          if leavesLeast m then x.leave t (.stops [] none) (p.place + 1) i
          else goTo t (p.place + 1) i
        | first :: rest =>
          if leavesLeast m then x.leave t (.stops (rest ++ [i]) none) (p.place + 1) first
          else x.leave t (.stops rest (some i)) (p.place + 1) first

def repeatedSame? (x : Task) (caseless : Bool) (start stop : Nat) : Nat → Nat → Option Nat
  | 0, i => some i
  | count + 1, i =>
    match x.subject.afterSame? caseless start stop i with
    | some j => x.repeatedSame? caseless start stop count j
    | none => none

/-- The positions after a captured text is repeated one to so many times, last first. -/
def samePositions (x : Task) (caseless : Bool) (start stop : Nat) :
    Nat → Nat → List Nat → List Nat
  | 0, _, found => found
  | most + 1, i, found =>
    match x.subject.afterSame? caseless start stop i with
    | some j => x.samePositions caseless start stop most j (j :: found)
    | none => found

/-- What the first of the groups that is set has captured. -/
def captured? (p : Point Stack) (groups : List Nat) : Option (Nat × Nat) :=
  groups.findSome? fun n => (p.captures[n]?).join

def takeSame (x : Task) (t : Thread) (groups : List Nat) (caseless : Bool) (c : Count) : Next :=
  let p := t.point
  match captured? p groups with
  | none => if c.least = 0 then goTo t (p.place + 1) p.position else fail t
  | some (start, stop) =>
    if start = stop then goTo t (p.place + 1) p.position
    else match x.repeatedSame? caseless start stop c.least p.position with
      | none => fail t
      | some i =>
        if c.most = some c.least then goTo t (p.place + 1) i
        else if c.greed = .lazy then
          x.leave { t with point := { p with position := i } }
            (.moreSame caseless start stop (lazily c)) (p.place + 1) i
        else
          match x.samePositions caseless start stop (x.further c) i [] with
          | [] => x.leave t (.stops [] none) (p.place + 1) i
          | first :: rest => x.leave t (.stops (rest ++ [i]) none) (p.place + 1) first

/-! ### Groups -/

/-- The point before the innermost group with a mark such as asked for, what was to be done there, and the
stack below it. The fuel is the depth. -/
def enclosing? (wanted : GroupMark → Bool) :
    Nat → Option (GroupMark × Stack) → Option (Resume × Point Stack × Stack)
  | 0, _ => none
  | _ + 1, none => none
  | _ + 1, some (_, .empty) => none
  | fuel + 1, some (mark, .left r p below) =>
    if wanted mark then some (r, p, below) else enclosing? wanted fuel p.group

/-- Whether a call of a group has begun at this position already, without another call of it between. -/
def isLoop (t : Thread) (n : Nat) : Bool :=
  let p := t.point
  p.calling.isSome &&
    match enclosing? (· = .call n) (p.depth + 1) p.group with
    | some (_, q, _) => q.position == p.position
    | none => false

def call (x : Task) (t : Thread) (n : Nat) : Next :=
  if isLoop t n then .breach .recursionLoop
  else
    let bracket := x.program.starts.getD n 0
    x.leave t (.call n bracket) (bracket + 1) t.point.position (some (.call n))

/-- Tries a branch of a group that does not remember its start: nothing is left behind at the last. -/
def tryPlain (x : Task) (t : Thread) (bracket : Nat) : Next :=
  let position := t.point.position
  if x.program.isBranch (x.program.nextBracket bracket) then
    x.leave t (.plainBranch bracket) (bracket + 1) position
  else goTo t (bracket + 1) position

/-- Goes on with the branch of a conditional group that a condition chooses. `after` is the place after
the condition. -/
def choose (x : Task) (t : Thread) (group after : Nat) (condition : Bool) : Next :=
  let p := t.point
  let next := x.program.nextBracket group
  let place := if condition then after else if x.program.isBranch next then next + 1 else next
  match x.program.at? group with
  | some (.opening .guardedConditional _) =>
    x.leave { t with point := { p with place } } .pass place p.position (some .plain)
  | _ => goTo t place p.position

def testHolds (p : Point Stack) : Test → Bool
  | .set groups => (captured? p groups).isSome
  | .called none => p.calling.isSome
  | .called (some groups) => p.calling.any (groups.contains ·)
  | .constant b => b

def enterConditional (x : Task) (t : Thread) : Next :=
  let p := t.point
  let at_ := p.place + 1
  match x.program.at? at_ with
  | some (.test test) => x.choose t p.place (at_ + 1) (testHolds p test)
  | some (.opening (.look _ negated) _) =>
    x.leave t (.condition p.place (!negated) at_) (at_ + 1) p.position (some .condition)
  | _ => fail t

def enterPossessive (x : Task) (t : Thread) (first bracket : Nat) (once absent : Bool) : Next :=
  let position := t.point.position
  let mark := match x.program.at? first with
    | some (.opening (.possessiveCapture n) _) => GroupMark.capture n
    | _ => .plain
  x.leave t (.possessive first bracket once absent position) (bracket + 1) position (some mark)

def enter (x : Task) (t : Thread) (b : Bracket) : Next :=
  let p := t.point
  let grouped (mark : Option GroupMark) : Next :=
    x.leave t (.groupBranch p.place mark) (p.place + 1) p.position mark
  match b with
  | .plain => if x.program.hasOnward || p.depth = 0 then grouped none else x.tryPlain t p.place
  | .guarded | .atomic | .scriptRun => grouped (some .plain)
  | .capture n => grouped (some (.capture n))
  | .look _ false | .lookAgain _ =>
    x.leave t (.look p.place) (p.place + 1) p.position (some .plain)
  | .look _ true => x.leave t (.lookNot p.place) (p.place + 1) p.position (some .plain)
  | .conditional | .guardedConditional => x.enterConditional t
  | .possessive | .possessiveCapture _ => x.enterPossessive t p.place p.place false false

/-- What is to be done at the start of a group that is not entered again: none of its further branches is
tried. -/
def sealedResume (x : Task) : Resume → Resume
  | .groupBranch bracket mark => .groupBranch (x.program.lastBranch bracket) mark
  | .look bracket => .look (x.program.lastBranch bracket)
  | r => r

/-- Goes on after the end of a group, or repeats it. `began` is where its turn began, if that is
remembered. -/
def repeatGroup (x : Task) (t : Thread) (c : Closing) (bracket : Nat) (began : Option Nat) : Next :=
  let p := t.point
  match c with
  | .once | .repeated .possessive => goTo t (p.place + 1) p.position
  | .repeated g =>
    if began = some p.position then goTo t (p.place + 1) p.position
    else if g = .lazy then x.leave t (.goTo bracket) (p.place + 1) p.position
    else x.leave t (.goTo (p.place + 1)) bracket p.position

/-- Ends a turn of a group that remembers its start: `q` is the point before it, with what was to be done
there and the stack below. -/
def closeRemembered (x : Task) (t : Thread) (b : Bracket) (c : Closing) (bracket : Nat)
    (mark : GroupMark) (r : Resume) (q : Point Stack) (below : Stack) : Next :=
  let p := { t.point with group := q.group }
  let t := { t with point := p }
  let onwards (t : Thread) : Next :=
    if c = .repeated .possessive then
      let p := t.point
      let q := { q with
        position := p.position, start := p.start, captures := p.captures
        calling := p.calling, group := p.group }
      .report .turn { t with stack := .left r q below }
    else x.repeatGroup t c bracket (some q.position)
  let capture (n : Nat) : Next :=
    if p.calling = some n then
      .go { t with point :=
        { p with captures := q.captures, calling := q.calling, place := q.place + 1 } }
    else
      onwards { t with point :=
        { p with captures := p.captures.setIfInBounds n (some (q.position, p.position)) } }
  if mark = .condition then
    .report .matched { t with stack := .left r { q with captures := p.captures } below }
  else match b with
    | .lookAgain _ => onwards { t with point := { p with position := q.position } }
    | .look _ false =>
      onwards { t with
        point := { p with position := q.position }, stack := .left (x.sealedResume r) q below }
    | .look _ true => .report .matched t
    | .atomic => onwards { t with stack := .left (x.sealedResume r) q below }
    | .scriptRun => if x.subject.isScriptRun q.position p.position then onwards t else fail t
    | .capture n | .possessiveCapture n => capture n
    | .plain | .guarded | .conditional | .guardedConditional | .possessive => onwards t

def close (x : Task) (t : Thread) (c : Closing) (back : Nat) : Next :=
  let p := t.point
  let bracket := p.place - back
  match x.program.at? bracket with
  | some (.opening .plain _) | some (.opening .conditional _) => x.repeatGroup t c bracket none
  | some (.opening b _) =>
    match p.group with
    | some (mark, .left r q below) => x.closeRemembered t b c bracket mark r q below
    | _ => fail t
  | _ => fail t

def goBack? (s : Subject) : Nat → Nat → Option Nat
  | 0, i => some i
  | count + 1, i => if i = 0 then none else goBack? s count (s.previous i)

/-- Accepts what has been matched, unless it is empty. In a call, goes on after it. -/
def finish (t : Thread) : Next :=
  let p := t.point
  if p.calling.isSome then
    match enclosing? (fun m => match m with | .call _ => true | _ => false) (p.depth + 1) p.group with
    | some (_, q, below) =>
      .go { t with
        point := { q with position := p.position, start := p.start, place := q.place + 1 }
        stack := below }
    | none => fail t
  else if p.position = p.start then fail t
  else .found p

def captureOpen (t : Thread) (n : Nat) : Next :=
  let p := t.point
  let p := if p.calling.isSome then p
    else match enclosing? (· = .capture n) (p.depth + 1) p.group with
      | some (_, q, _) =>
        { p with captures := p.captures.setIfInBounds n (some (q.position, p.position)) }
      | none => p
  .go { t with point := { p with place := p.place + 1 } }

def runVerb (x : Task) (t : Thread) (v : Verb) : Next :=
  let p := t.point
  let leaving (t : Thread) (r : Resume) : Next := x.leave t r (p.place + 1) p.position
  match v with
  | .fail => fail t
  | .mark name => leaving t (.mark name)
  | .commit _ => leaving t (.verb (.commit p.calling))
  | .prune _ => leaving t (.verb (.prune p.calling))
  | .skip => leaving t (.verb (.skip p.position p.calling))
  | .onward _ => leaving t (.verb (.onward p.place p.calling))
  | .skipTo name =>
    let t := { t with skipsToName := t.skipsToName + 1 }
    if t.skipsToName ≤ x.ignoredSkips then goTo t (p.place + 1) p.position
    else leaving t (.verb (.skipTo name p.calling))

def step (x : Task) (t : Thread) : Next :=
  let p := t.point
  match x.program.at? p.place with
  | none => fail t
  | some inst =>
    match inst with
    | .single m =>
      match m.next? x.program.settings x.subject p.position with
      | some i => goTo t (p.place + 1) i
      | none => fail t
    | .several m c => x.takeSeveral t m c
    | .anchor .keepOut =>
      .go { t with point := { p with place := p.place + 1, start := p.position } }
    | .anchor a => if x.holds a p.position then goTo t (p.place + 1) p.position else fail t
    | .backreference groups caseless c => x.takeSame t groups caseless c
    | .call n => x.call t n
    | .opening b _ => x.enter t b
    | .branch _ => goTo t (x.program.groupEnd p.place) p.position
    | .closing c back => x.close t c back
    | .test _ => fail t
    | .back count =>
      match goBack? x.subject count p.position with
      | some i => goTo t (p.place + 1) i
      | none => fail t
    | .passable lazy =>
      let target := x.program.groupEnd (p.place + 1) + 1
      if lazy then x.leave t (.goTo (p.place + 1)) target p.position
      else x.leave t (.goTo target) (p.place + 1) p.position
    | .passablePossessive => x.enterPossessive t (p.place + 1) (p.place + 1) false true
    | .passed => goTo t (x.program.groupEnd (p.place + 1) + 1) p.position
    | .verb v => x.runVerb t v
    | .capture n => captureOpen t n
    | .accept | .finish => finish t
    | .acceptLook => .report (.accepted p.captures) t

/-! ### Verdicts -/

/-- A verdict as the branch at a bracket takes it: the verb that goes on to the next branch, if it stands
before that branch of a group of several, is a failure. -/
def atBranch (x : Task) (bracket : Nat) (v : Verdict) : Verdict :=
  match v with
  | .onward place _ =>
    let next := x.program.nextBracket bracket
    if place < next ∧ (x.program.isBranch bracket || x.program.isBranch next) then .noMatch else v
  | v => v

/-- What a call makes of a verdict of a verb that ran in it. -/
def atCall (x : Task) (n bracket : Nat) (v : Verdict) : Option Verdict :=
  match v with
  | .onward _ calling =>
    if calling = some n then
      if x.atBranch bracket v = .noMatch then some .noMatch else none
    else some v
  | .commit calling | .prune calling | .skip _ calling | .skipTo _ calling =>
    if calling = some n then none else some v
  | v => some v

/-- Reports a verdict to the point left behind last. `t` has that point on top of the stack. -/
def resume (x : Task) (v : Verdict) (t : Thread) (r : Resume) : Next :=
  let p := t.point
  let program := x.program
  let pass : Next := .report v t
  -- The next branch of a group, or what comes after the last one.
  let nextBranch (bracket : Nat) (r : Nat → Resume) (mark : Option GroupMark) (otherwise : Next) : Next :=
    let next := program.nextBracket bracket
    if program.isBranch next then x.leave t (r next) (next + 1) p.position mark else otherwise
  match r with
  | .plainBranch bracket =>
    if v = .noMatch then x.tryPlain t (program.nextBracket bracket) else pass
  | .groupBranch bracket mark =>
    match x.atBranch bracket v with
    | .noMatch => nextBranch bracket (.groupBranch · mark) mark (fail t)
    | v => .report v t
  | .look bracket =>
    match v with
    | .accepted captures =>
      .go { t with point := { p with captures, place := program.groupEnd bracket + 1 } }
    | .noMatch | .onward _ _ => nextBranch bracket .look (some .plain) (fail t)
    | v => .report v t
  | .lookNot bracket =>
    let holds : Next := goTo t (program.groupEnd bracket + 1) p.position
    match x.atBranch bracket v with
    | .matched | .accepted _ => fail t
    | .noMatch => nextBranch bracket .lookNot (some .plain) holds
    | .onward _ _ | .commit _ | .prune _ | .skip _ _ => holds
    | v => .report v t
  | .condition group positive bracket =>
    let decide (t : Thread) (condition : Bool) : Next :=
      x.choose t group (program.groupEnd (group + 1) + 1) condition
    match v with
    | .accepted captures => decide { t with point := { p with captures } } positive
    | .matched => decide t positive
    | .noMatch | .onward _ _ =>
      nextBranch bracket (.condition group positive ·) (some .condition) (decide t (!positive))
    | v => .report v t
  | .possessive first bracket once absent began =>
    match x.atBranch bracket v with
    | .turn =>
      if p.position = began then goTo t (program.groupEnd bracket + 1) p.position
      else x.enterPossessive t first first true absent
    | .noMatch =>
      let next := program.nextBracket bracket
      if program.isBranch next then x.enterPossessive t first next once absent
      else if once || absent then goTo t (next + 1) p.position
      else fail t
    | v => .report v t
  | .call n bracket =>
    match x.atCall n bracket v with
    | none => fail t
    | some .noMatch => nextBranch bracket (.call n ·) (some (.call n)) (fail t)
    | some v => .report v t
  | .goTo place => if v = .noMatch then goTo t place p.position else pass
  | .mark name =>
    match v with
    | .skipTo wanted calling =>
      if wanted = name then .report (.skip p.position calling) t else pass
    | _ => pass
  | .verb own => if v = .noMatch then .report own t else pass
  | .stops positions last =>
    if v = .noMatch then
      match positions with
      | i :: rest => x.leave t (.stops rest last) (p.place + 1) i
      | [] =>
        match last with
        | some i => goTo t (p.place + 1) i
        | none => fail t
    else pass
  | .more m most =>
    if v = .noMatch ∧ most ≠ some 0 then
      match m.next? program.settings x.subject p.position with
      | some i =>
        x.leave { t with point := { p with position := i } } (.more m (most.map (· - 1)))
          (p.place + 1) i
      | none => fail t
    else pass
  | .moreSame caseless start stop most =>
    if v = .noMatch ∧ most ≠ some 0 then
      match x.subject.afterSame? caseless start stop p.position with
      | some i =>
        x.leave { t with point := { p with position := i } }
          (.moreSame caseless start stop (most.map (· - 1))) (p.place + 1) i
      | none => fail t
    else pass
  | .pass => pass

end Task

end RuleRegex
