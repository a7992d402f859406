/-!
# Flaws of patterns

## Main definitions

* `Flaw` — what can be wrong with a pattern.
* `Flaw.code`, `Flaw.message` — the number and the wording of a flaw.
-/

namespace RuleRegex

inductive Flaw where
  | backslashAtEnd
  | controlAtEnd
  | unknownEscape
  | countsOutOfOrder
  | countTooBig
  | unclosedClass
  | escapeInClass
  | rangeOutOfOrder
  | nothingToRepeat
  | unknownOption
  | posixOutsideClass
  | collatingElement
  | unclosedGroup
  | noSuchGroup
  | unclosedComment
  | nestedTooDeeply
  | tooLarge
  | unopenedGroup
  | unclosedCondition
  | lookbehindNotFixed
  | relativeZero
  | tooManyBranches
  | assertionExpected
  | digitExpected
  | unknownPosixClass
  | codePointTooLarge
  | lookbehindTooComplicated
  | byteInLookbehind
  | unsupportedEscape
  | calloutTooBig
  | unclosedCallout
  | unknownNameSyntax
  | unterminatedName
  | duplicateName
  | nameStartsWithDigit
  | malformedProperty
  | unknownProperty
  | nameTooLong
  | tooManyNames
  | invalidRange
  | defineBranches
  | octalBraceMissing
  | badGroupEscape
  | unclosedRecursion
  | badVerb
  | groupNumberTooBig
  | nameExpected
  | nonOctalDigit
  | differentNames
  | markWithoutName
  | nonHexDigit
  | badControl
  | badNamedReference
  | notNewlineInClass
  | surrogate
  | verbNameTooLong
  | digitsMissing
  | badVersion
  | unterminatedCallout
  | unknownDelimiter
  | lookbehindTooLong
  | badHyphen
  | unknownAssertion
  | tooManyGroups
  | atomicAssertionExpected
  | keepOutInLookaround
  deriving DecidableEq, Repr

namespace Flaw

def code : Flaw → Nat
  | backslashAtEnd => 101
  | controlAtEnd => 102
  | unknownEscape => 103
  | countsOutOfOrder => 104
  | countTooBig => 105
  | unclosedClass => 106
  | escapeInClass => 107
  | rangeOutOfOrder => 108
  | nothingToRepeat => 109
  | unknownOption => 111
  | posixOutsideClass => 112
  | collatingElement => 113
  | unclosedGroup => 114
  | noSuchGroup => 115
  | unclosedComment => 118
  | nestedTooDeeply => 119
  | tooLarge => 120
  | unopenedGroup => 122
  | unclosedCondition => 124
  | lookbehindNotFixed => 125
  | relativeZero => 126
  | tooManyBranches => 127
  | assertionExpected => 128
  | digitExpected => 129
  | unknownPosixClass => 130
  | codePointTooLarge => 134
  | lookbehindTooComplicated => 135
  | byteInLookbehind => 136
  | unsupportedEscape => 137
  | calloutTooBig => 138
  | unclosedCallout => 139
  | unknownNameSyntax => 141
  | unterminatedName => 142
  | duplicateName => 143
  | nameStartsWithDigit => 144
  | malformedProperty => 146
  | unknownProperty => 147
  | nameTooLong => 148
  | tooManyNames => 149
  | invalidRange => 150
  | defineBranches => 154
  | octalBraceMissing => 155
  | badGroupEscape => 157
  | unclosedRecursion => 158
  | badVerb => 160
  | groupNumberTooBig => 161
  | nameExpected => 162
  | nonOctalDigit => 164
  | differentNames => 165
  | markWithoutName => 166
  | nonHexDigit => 167
  | badControl => 168
  | badNamedReference => 169
  | notNewlineInClass => 171
  | surrogate => 173
  | verbNameTooLong => 176
  | digitsMissing => 178
  | badVersion => 179
  | unterminatedCallout => 181
  | unknownDelimiter => 182
  | lookbehindTooLong => 187
  | badHyphen => 194
  | unknownAssertion => 195
  | tooManyGroups => 197
  | atomicAssertionExpected => 198
  | keepOutInLookaround => 199

def message : Flaw → String
  | backslashAtEnd => "\\ at end of pattern"
  | controlAtEnd => "\\c at end of pattern"
  | unknownEscape => "unrecognized character follows \\"
  | countsOutOfOrder => "numbers out of order in \x7b\x7d quantifier"
  | countTooBig => "number too big in \x7b\x7d quantifier"
  | unclosedClass => "missing terminating ] for character class"
  | escapeInClass => "escape sequence is invalid in character class"
  | rangeOutOfOrder => "range out of order in character class"
  | nothingToRepeat => "quantifier does not follow a repeatable item"
  | unknownOption => "unrecognized character after (? or (?-"
  | posixOutsideClass => "POSIX named classes are supported only within a class"
  | collatingElement => "POSIX collating elements are not supported"
  | unclosedGroup => "missing closing parenthesis"
  | noSuchGroup => "reference to non-existent subpattern"
  | unclosedComment => "missing ) after (?# comment"
  | nestedTooDeeply => "parentheses are too deeply nested"
  | tooLarge => "regular expression is too large"
  | unopenedGroup => "unmatched closing parenthesis"
  | unclosedCondition => "missing closing parenthesis for condition"
  | lookbehindNotFixed => "lookbehind assertion is not fixed length"
  | relativeZero => "a relative value of zero is not allowed"
  | tooManyBranches => "conditional subpattern contains more than two branches"
  | assertionExpected => "assertion expected after (?( or (?(?C)"
  | digitExpected => "digit expected after (?+ or (?-"
  | unknownPosixClass => "unknown POSIX class name"
  | codePointTooLarge => "character code point value in \\x\x7b\x7d or \\o\x7b\x7d is too large"
  | lookbehindTooComplicated => "lookbehind is too complicated"
  | byteInLookbehind => "\\C is not allowed in a lookbehind assertion in UTF-8 mode"
  | unsupportedEscape => "PCRE2 does not support \\F, \\L, \\l, \\N\x7bname\x7d, \\U, or \\u"
  | calloutTooBig => "number after (?C is greater than 255"
  | unclosedCallout => "closing parenthesis for (?C expected"
  | unknownNameSyntax => "unrecognized character after (?P"
  | unterminatedName => "syntax error in subpattern name (missing terminator?)"
  | duplicateName => "two named subpatterns have the same name (PCRE2_DUPNAMES not set)"
  | nameStartsWithDigit => "subpattern name must start with a non-digit"
  | malformedProperty => "malformed \\P or \\p sequence"
  | unknownProperty => "unknown property after \\P or \\p"
  | nameTooLong => "subpattern name is too long (maximum 32 code units)"
  | tooManyNames => "too many named subpatterns (maximum 10000)"
  | invalidRange => "invalid range in character class"
  | defineBranches => "DEFINE subpattern contains more than one branch"
  | octalBraceMissing => "missing opening brace after \\o"
  | badGroupEscape =>
    "\\g is not followed by a braced, angle-bracketed, or quoted name/number or by a plain number"
  | unclosedRecursion => "(?R (recursive pattern call) must be followed by a closing parenthesis"
  | badVerb => "(*VERB) not recognized or malformed"
  | groupNumberTooBig => "subpattern number is too big"
  | nameExpected => "subpattern name expected"
  | nonOctalDigit => "non-octal character in \\o\x7b\x7d (closing brace missing?)"
  | differentNames => "different names for subpatterns of the same number are not allowed"
  | markWithoutName => "(*MARK) must have an argument"
  | nonHexDigit => "non-hex character in \\x\x7b\x7d (closing brace missing?)"
  | badControl => "\\c must be followed by a printable ASCII character"
  | badNamedReference => "\\k is not followed by a braced, angle-bracketed, or quoted name"
  | notNewlineInClass => "\\N is not supported in a class"
  | surrogate => "disallowed Unicode code point (>= 0xd800 && <= 0xdfff)"
  | verbNameTooLong => "name is too long in (*MARK), (*PRUNE), (*SKIP), or (*THEN)"
  | digitsMissing => "digits missing in \\x\x7b\x7d or \\o\x7b\x7d or \\N\x7bU+\x7d"
  | badVersion => "syntax error or number too big in (?(VERSION condition"
  | unterminatedCallout => "missing terminating delimiter for callout with string argument"
  | unknownDelimiter => "unrecognized string delimiter follows (?C"
  | lookbehindTooLong => "lookbehind assertion is too long"
  | badHyphen => "invalid hyphen in option setting"
  | unknownAssertion => "(*alpha_assertion) not recognized"
  | tooManyGroups => "too many capturing groups (maximum 65535)"
  | atomicAssertionExpected => "atomic assertion expected after (?( or (?(?C)"
  | keepOutInLookaround =>
    "\\K is not allowed in lookarounds (but see PCRE2_EXTRA_ALLOW_LOOKAROUND_BSK)"

def all : List Flaw :=
  [.backslashAtEnd, .controlAtEnd, .unknownEscape, .countsOutOfOrder, .countTooBig,
    .unclosedClass, .escapeInClass, .rangeOutOfOrder, .nothingToRepeat, .unknownOption,
    .posixOutsideClass, .collatingElement, .unclosedGroup, .noSuchGroup, .unclosedComment,
    .nestedTooDeeply, .tooLarge, .unopenedGroup, .unclosedCondition, .lookbehindNotFixed,
    .relativeZero, .tooManyBranches, .assertionExpected, .digitExpected, .unknownPosixClass,
    .codePointTooLarge, .lookbehindTooComplicated, .byteInLookbehind, .unsupportedEscape,
    .calloutTooBig, .unclosedCallout, .unknownNameSyntax, .unterminatedName, .duplicateName,
    .nameStartsWithDigit, .malformedProperty, .unknownProperty, .nameTooLong, .tooManyNames,
    .invalidRange, .defineBranches, .octalBraceMissing, .badGroupEscape, .unclosedRecursion,
    .badVerb, .groupNumberTooBig, .nameExpected, .nonOctalDigit, .differentNames,
    .markWithoutName, .nonHexDigit, .badControl, .badNamedReference, .notNewlineInClass,
    .surrogate, .verbNameTooLong, .digitsMissing, .badVersion, .unterminatedCallout,
    .unknownDelimiter, .lookbehindTooLong, .badHyphen, .unknownAssertion, .tooManyGroups,
    .atomicAssertionExpected, .keepOutInLookaround]

end Flaw

end RuleRegex
