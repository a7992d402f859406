import RuleRegex.Unicode.Category
import RuleRegex.Unicode.Data.Binary
import RuleRegex.Unicode.Cluster
import RuleRegex.Unicode.Folding

/-!
# Binary properties

Most of the large properties follow from general categories and case folding but for some code
points, which are listed.

## Main definitions

* `binaryProperties` — the properties with their names.
-/

namespace RuleRegex.Unicode

/-- A property that the listed code points have. -/
def listed (text : String) : Nat → Bool := (Ranges.ofText text).contains

/-- A property that follows a rule except at the listed code points. -/
def ruled (rule : Nat → Bool) (text : String) : Nat → Bool :=
  let exceptions := Ranges.ofText text
  fun c => rule c != exceptions.contains c

def foldsAway (c : Nat) : Bool := fold c ≠ c

def isFoldTarget (c : Nat) : Bool := foldingSources.contains c

/-- The rule of the identifier starts. -/
def letterOrLetterNumber (c : Nat) : Bool := isLetter c || category c = "Nl"

/-- The rule of the identifier continuations. -/
def continuesWord (c : Nat) : Bool :=
  letterOrLetterNumber c || category c ∈ ["Mn", "Mc", "Nd", "Pc"]

def isLowercase : Nat → Bool := ruled (category · = "Ll") Data.lowercase

def isUppercase : Nat → Bool := ruled (category · = "Lu") Data.uppercase

def isGraphemeExtend : Nat → Bool := ruled (category · ∈ ["Mn", "Me"]) Data.graphemeExtend

def isGraphemeBase (c : Nat) : Bool :=
  !(category c ∈ ["Cc", "Cf", "Cs", "Co", "Cn", "Zl", "Zp"] || isGraphemeExtend c)

/-- The properties, each with its names without case and separators. -/
def binaryProperties : Array (List String × (Nat → Bool)) := #[
  (["ascii"], (· < 128)),
  (["ahex", "asciihexdigit"], listed Data.asciiHexDigit),
  (["alpha", "alphabetic"], ruled letterOrLetterNumber Data.alphabetic),
  (["bidic", "bidicontrol"], listed Data.bidiControl),
  (["bidim", "bidimirrored"], ruled (category · ∈ ["Ps", "Pe", "Pi", "Pf"]) Data.bidiMirrored),
  (["ci", "caseignorable"],
    ruled (category · ∈ ["Mn", "Me", "Cf", "Lm", "Sk"]) Data.caseIgnorable),
  (["cased"], fun c => isLowercase c || isUppercase c || category c = "Lt"),
  (["cwcf", "changeswhencasefolded"], ruled foldsAway Data.changesWhenCasefolded),
  (["cwcm", "changeswhencasemapped"],
    ruled (fun c => foldsAway c || isFoldTarget c) Data.changesWhenCasemapped),
  (["cwl", "changeswhenlowercased"], ruled foldsAway Data.changesWhenLowercased),
  (["cwt", "changeswhentitlecased"], ruled isFoldTarget Data.changesWhenTitlecased),
  (["cwu", "changeswhenuppercased"], ruled isFoldTarget Data.changesWhenUppercased),
  (["dash"], ruled (category · = "Pd") Data.dash),
  (["di", "defaultignorablecodepoint"], listed Data.defaultIgnorableCodePoint),
  (["dep", "deprecated"], listed Data.deprecated),
  (["dia", "diacritic"], listed Data.diacritic),
  (["emoji"], listed Data.emoji),
  (["ecomp", "emojicomponent"], listed Data.emojiComponent),
  (["emod", "emojimodifier"], listed Data.emojiModifier),
  (["ebase", "emojimodifierbase"], listed Data.emojiModifierBase),
  (["epres", "emojipresentation"], listed Data.emojiPresentation),
  (["extpict", "extendedpictographic"], fun c => clusterClass c = .pictographic),
  (["ext", "extender"], listed Data.extender),
  (["grbase", "graphemebase"], isGraphemeBase),
  (["grext", "graphemeextend"], isGraphemeExtend),
  (["grlink", "graphemelink"], listed Data.graphemeLink),
  (["hex", "hexdigit"], listed Data.hexDigit),
  (["idsb", "idsbinaryoperator"], listed Data.idsBinaryOperator),
  (["idst", "idstrinaryoperator"], listed Data.idsTrinaryOperator),
  (["idc", "idcontinue"], ruled continuesWord Data.idContinue),
  (["ids", "idstart"], ruled letterOrLetterNumber Data.idStart),
  (["ideo", "ideographic"], listed Data.ideographic),
  (["joinc", "joincontrol"], listed Data.joinControl),
  (["loe", "logicalorderexception"], listed Data.logicalOrderException),
  (["lower", "lowercase"], isLowercase),
  (["math"], ruled (category · = "Sm") Data.math),
  (["nchar", "noncharactercodepoint"], listed Data.noncharacterCodePoint),
  (["patsyn", "patternsyntax"], listed Data.patternSyntax),
  (["patws", "patternwhitespace"], listed Data.patternWhiteSpace),
  (["pcm", "prependedconcatenationmark"], listed Data.prependedConcatenationMark),
  (["qmark", "quotationmark"], listed Data.quotationMark),
  (["radical"], listed Data.radical),
  (["ri", "regionalindicator"], listed Data.regionalIndicator),
  (["sterm", "sentenceterminal"], listed Data.sentenceTerminal),
  (["sd", "softdotted"], listed Data.softDotted),
  (["term", "terminalpunctuation"], listed Data.terminalPunctuation),
  (["uideo", "unifiedideograph"], listed Data.unifiedIdeograph),
  (["upper", "uppercase"], isUppercase),
  (["vs", "variationselector"], listed Data.variationSelector),
  (["wspace", "whitespace", "space"], listed Data.whiteSpace),
  (["xidc", "xidcontinue"], ruled continuesWord Data.xidContinue),
  (["xids", "xidstart"], ruled letterOrLetterNumber Data.xidStart)]

def binaryNamed? (name : String) : Option Nat := binaryProperties.findIdx? (name ∈ ·.1)

def hasBinary (i : Nat) (c : Nat) : Bool :=
  match binaryProperties[i]? with
  | some (_, has) => has c
  | none => false

end RuleRegex.Unicode
