import TextCursor.Text

/-! # Mistakes in a regular expression

    A mistake has a cause and an extent in the pattern, counted in characters;
    a repetition of something that may occur once also has the extent of the
    first occurrence. -/

namespace TextCursor.Regex

/-- A range of character positions in a pattern. -/
structure Extent where
  start : Nat
  stop : Nat
deriving DecidableEq, Repr

/-- The empty extent at a position. -/
def Extent.point (n : Nat) : Extent := ⟨n, n⟩

/-- Why a pattern is refused. -/
inductive Cause where
  | backreference
  | captureNameDuplicate
  | captureNameEmpty
  | captureNameInvalid
  | captureNameUnclosed
  | classEscape
  | classRangeBoundary
  | classRangeOrder
  | classUnclosed
  | decimalInvalid
  | escapeEnd
  | escapeUnknown
  | flagDangling
  | flagDuplicate
  | flagEnd
  | flagNegationRepeated
  | flagUnknown
  | groupUnclosed
  | groupUnopened
  | hexDigit
  | hexEmpty
  | hexValue
  | invalidUtf8
  | lookAround
  | nesting
  | propertyLetter
  | propertyNotFound
  | propertyValueNotFound
  | repetitionCountDecimal
  | repetitionCountOrder
  | repetitionCountUnclosed
  | repetitionMissing
  | unicodeOff
  | wordBoundaryEnd
  | wordBoundaryUnclosed
  | wordBoundaryUnknown
deriving DecidableEq, Repr

/-- How deep groups and classes may be nested. -/
def nestingLimit : Nat := 250

/-- The description of a cause. -/
def Cause.description : Cause → String
  | .backreference => "backreferences are not supported"
  | .captureNameDuplicate => "duplicate capture group name"
  | .captureNameEmpty => "empty capture group name"
  | .captureNameInvalid => "invalid capture group character"
  | .captureNameUnclosed => "unclosed capture group name"
  | .classEscape => "invalid escape sequence found in character class"
  | .classRangeBoundary => "invalid range boundary, must be a literal"
  | .classRangeOrder => "invalid character class range, the start must be <= the end"
  | .classUnclosed => "unclosed character class"
  | .decimalInvalid => "decimal literal invalid"
  | .escapeEnd => "incomplete escape sequence, reached end of pattern prematurely"
  | .escapeUnknown => "unrecognized escape sequence"
  | .flagDangling => "dangling flag negation operator"
  | .flagDuplicate => "duplicate flag"
  | .flagEnd => "expected flag but got end of regex"
  | .flagNegationRepeated => "flag negation operator repeated"
  | .flagUnknown => "unrecognized flag"
  | .groupUnclosed => "unclosed group"
  | .groupUnopened => "unopened group"
  | .hexDigit => "invalid hexadecimal digit"
  | .hexEmpty => "hexadecimal literal empty"
  | .hexValue => "hexadecimal literal is not a Unicode scalar value"
  | .invalidUtf8 => "pattern can match invalid UTF-8"
  | .lookAround => "look-around, including look-ahead and look-behind, is not supported"
  | .nesting => "exceed the maximum number of nested parentheses/brackets (250)"
  | .propertyLetter => "invalid Unicode character class"
  | .propertyNotFound => "Unicode property not found"
  | .propertyValueNotFound => "Unicode property value not found"
  | .repetitionCountDecimal => "repetition quantifier expects a valid decimal"
  | .repetitionCountOrder => "invalid repetition count range, the start must be <= the end"
  | .repetitionCountUnclosed => "unclosed counted repetition"
  | .repetitionMissing => "repetition operator missing expression"
  | .unicodeOff => "Unicode not allowed here"
  | .wordBoundaryEnd =>
    "found either the beginning of a special word boundary or a bounded repetition " ++
    "on a \\b with an opening brace, but no closing brace"
  | .wordBoundaryUnclosed =>
    "special word boundary assertion is either unclosed or contains an invalid character"
  | .wordBoundaryUnknown =>
    "unrecognized special word boundary assertion, valid choices are: " ++
    "start, end, start-half or end-half"

/-- A mistake at its place in a pattern. -/
structure Mistake where
  cause : Cause
  extent : Extent
  /-- What the extent repeats. -/
  earlier : Option Extent
deriving DecidableEq, Repr

end TextCursor.Regex
