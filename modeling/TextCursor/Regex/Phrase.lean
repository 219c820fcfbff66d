import TextCursor.Regex.Mistake
import TextCursor.Unicode.Property

/-! # Phrases

    A regular expression as it is written: a tree whose parts know their extent
    in the pattern.  What a part means depends on the flags in force at its
    place, so flags are parts too. -/

namespace TextCursor.Regex

/-- A switch of the language. -/
inductive Flag where
  /-- `i`: letters stand for both cases. -/
  | caseInsensitive
  /-- `m`: `^` and `$` match at lines. -/
  | multiLine
  /-- `s`: the dot matches a line feed. -/
  | dotMatchesLineFeed
  /-- `U`: greedy and lazy change places. -/
  | swapGreed
  /-- `u`: classes and boundaries go by all of Unicode. -/
  | unicode
  /-- `R`: a line ends with a carriage return, a line feed or both. -/
  | crlf
  /-- `x`: blanks and comments are ignored. -/
  | ignoreBlanks
deriving DecidableEq, Repr

/-- Flags with the setting that each one gets. -/
abbrev FlagSettings := List (Flag × Bool)

/-- Places that a pattern can ask for. -/
inductive Anchor where
  | lineStart
  | lineEnd
  | textStart
  | textEnd
  | wordBoundary
  | notWordBoundary
  | wordStart
  | wordEnd
  | wordStartHalf
  | wordEndHalf
deriving DecidableEq, Repr

/-- The classes with one-letter escapes. -/
inductive ShortClass where
  | digit
  | blank
  | word
deriving DecidableEq, Repr

/-- The classes of ASCII characters that are named between `[:` and `:]`. -/
inductive AsciiClass where
  | alnum
  | alpha
  | ascii
  | blank
  | cntrl
  | digit
  | graph
  | lower
  | print
  | punct
  | space
  | upper
  | word
  | xdigit
deriving DecidableEq, Repr

namespace AsciiClass

/-- The class with a name. -/
def ofName? : String → Option AsciiClass
  | "alnum" => some alnum
  | "alpha" => some alpha
  | "ascii" => some ascii
  | "blank" => some blank
  | "cntrl" => some cntrl
  | "digit" => some digit
  | "graph" => some graph
  | "lower" => some lower
  | "print" => some print
  | "punct" => some punct
  | "space" => some space
  | "upper" => some upper
  | "word" => some word
  | "xdigit" => some xdigit
  | _ => none

/-- The members of a class. -/
def ranges : AsciiClass → List (Nat × Nat)
  | alnum => [(0x30, 0x39), (0x41, 0x5A), (0x61, 0x7A)]
  | alpha => [(0x41, 0x5A), (0x61, 0x7A)]
  | ascii => [(0x00, 0x7F)]
  | blank => [(0x09, 0x09), (0x20, 0x20)]
  | cntrl => [(0x00, 0x1F), (0x7F, 0x7F)]
  | digit => [(0x30, 0x39)]
  | graph => [(0x21, 0x7E)]
  | lower => [(0x61, 0x7A)]
  | print => [(0x20, 0x7E)]
  | punct => [(0x21, 0x2F), (0x3A, 0x40), (0x5B, 0x60), (0x7B, 0x7E)]
  | space => [(0x09, 0x0D), (0x20, 0x20)]
  | upper => [(0x41, 0x5A)]
  | word => [(0x30, 0x39), (0x41, 0x5A), (0x5F, 0x5F), (0x61, 0x7A)]
  | xdigit => [(0x30, 0x39), (0x41, 0x46), (0x61, 0x66)]

end AsciiClass

/-- A character as written. -/
structure Literal where
  extent : Extent
  char : Char
  /-- Whether it is written by two hexadecimal digits, so that it can mean a byte. -/
  byByte : Bool
deriving DecidableEq, Repr

/-- The operators between the sets of a bracketed class. -/
inductive SetOperator where
  | intersection
  | difference
  | symmetricDifference
deriving DecidableEq, Repr

/-- What stands between the brackets of a class. -/
inductive ClassPhrase where
  | empty (extent : Extent)
  | literal (literal : Literal)
  | range (extent : Extent) (low high : Literal)
  | ascii (extent : Extent) (kind : AsciiClass) (negated : Bool)
  | unicode (extent : Extent) (query : Unicode.Query) (negated : Bool)
  | short (extent : Extent) (kind : ShortClass) (negated : Bool)
  | bracketed (extent : Extent) (negated : Bool) (inner : ClassPhrase)
  | union (extent : Extent) (items : List ClassPhrase)
  | combined (extent : Extent) (operator : SetOperator) (left right : ClassPhrase)
deriving Repr

/-- The extent of what stands in a class. -/
def ClassPhrase.extent : ClassPhrase → Extent
  | .empty e => e
  | .literal l => l.extent
  | .range e _ _ => e
  | .ascii e _ _ => e
  | .unicode e _ _ => e
  | .short e _ _ => e
  | .bracketed e _ _ => e
  | .union e _ => e
  | .combined e _ _ _ => e

/-- A regular expression as written. -/
inductive Phrase where
  | empty (extent : Extent)
  /-- Flags for the rest of the enclosing group. -/
  | flags (extent : Extent) (settings : FlagSettings)
  | literal (literal : Literal)
  | dot (extent : Extent)
  | anchor (extent : Extent) (kind : Anchor)
  | unicode (extent : Extent) (query : Unicode.Query) (negated : Bool)
  | short (extent : Extent) (kind : ShortClass) (negated : Bool)
  | bracketed (extent : Extent) (negated : Bool) (inner : ClassPhrase)
  | repetition (extent : Extent) (least : Nat) (most : Option Nat) (greedy : Bool) (body : Phrase)
  /-- A group that captures, by number. -/
  | capture (extent : Extent) (index : Nat) (body : Phrase)
  /-- A group with flags of its own. -/
  | group (extent : Extent) (settings : FlagSettings) (body : Phrase)
  | alternation (extent : Extent) (branches : List Phrase)
  | concat (extent : Extent) (parts : List Phrase)
deriving Repr

/-- The extent of a phrase. -/
def Phrase.extent : Phrase → Extent
  | .empty e => e
  | .flags e _ => e
  | .literal l => l.extent
  | .dot e => e
  | .anchor e _ => e
  | .unicode e _ _ => e
  | .short e _ _ => e
  | .bracketed e _ _ => e
  | .repetition e _ _ _ _ => e
  | .capture e _ _ => e
  | .group e _ _ => e
  | .alternation e _ => e
  | .concat e _ => e

end TextCursor.Regex
