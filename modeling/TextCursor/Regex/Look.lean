import TextCursor.Unicode.Property

/-! # Looks

    Conditions on the two characters around a position.  At an end of the
    haystack one of them is missing. -/

namespace TextCursor.Regex

/-- A condition on the surroundings of a position. -/
inductive Look where
  | start
  | stop
  | lineStart
  | lineStop
  /-- As `lineStart`, where a carriage return ends a line too. -/
  | lineStartCrlf
  /-- As `lineStop`, where a carriage return ends a line too. -/
  | lineStopCrlf
  | wordEdge (unicode : Bool)
  | notWordEdge (unicode : Bool)
  | wordStart (unicode : Bool)
  | wordStop (unicode : Bool)
  | wordStartHalf (unicode : Bool)
  | wordStopHalf (unicode : Bool)
deriving DecidableEq, Repr

/-- The characters of words in ASCII. -/
def asciiWord : CharSet :=
  CharSet.ofRanges [(0x30, 0x39), (0x41, 0x5A), (0x5F, 0x5F), (0x61, 0x7A)]

/-- Whether a neighbour is a character of a word. -/
def isWord (unicode : Bool) : Option Char → Bool
  | none => false
  | some c => if unicode then Unicode.wordCharacter.contains c else asciiWord.contains c

/-- Whether a condition holds between two neighbours. -/
def Look.holds (look : Look) (before after : Option Char) : Bool :=
  match look with
  | .start => before.isNone
  | .stop => after.isNone
  | .lineStart => before.isNone || before == some '\n'
  | .lineStop => after.isNone || after == some '\n'
  | .lineStartCrlf =>
    before.isNone || before == some '\n' || (before == some '\r' && after != some '\n')
  | .lineStopCrlf =>
    after.isNone || after == some '\r' || (after == some '\n' && before != some '\r')
  | .wordEdge u => isWord u before != isWord u after
  | .notWordEdge u => isWord u before == isWord u after
  | .wordStart u => !isWord u before && isWord u after
  | .wordStop u => isWord u before && !isWord u after
  | .wordStartHalf u => !isWord u before
  | .wordStopHalf u => !isWord u after

end TextCursor.Regex
