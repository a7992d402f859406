import RuleRegex.Escape.Segment

/-!
# Conversion of octal escapes

The converted pattern is what the engine is given. Positions that the engine reports are positions in
the converted pattern; they are carried back to the pattern as it was written.

## Main definitions

* `convert` — the pattern with its braced octal escapes in hexadecimal.
* `originalPosition` — the position in the pattern of a position in its converted form.
-/

namespace RuleRegex

variable {α : Type} [Alphabet α]

def outputs (segments : List (Segment α)) : List α := segments.flatMap Segment.output

/-- The pattern with every braced octal escape in hexadecimal and all else unchanged. -/
def convert (pattern : List α) : List α := outputs (scan pattern)

/-- The position before the segments' sources that a position before their outputs comes from. Inside
a rewritten escape it is where the escape begins; beyond the end the distance from the end is kept. -/
def originIn : List (Segment α) → Int → Int
  | [], position => position
  | s :: rest, position =>
    if position < s.output.length then
      if s.isEscape then 0 else position
    else s.source.length + originIn rest (position - s.output.length)

/-- The position in a pattern of a position in the converted pattern. -/
def originalPosition (pattern : List α) (position : Int) : Int := originIn (scan pattern) position

end RuleRegex
