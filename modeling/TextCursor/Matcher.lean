import TextCursor.Text

/-! # Matchers

    A matcher answers one question: where does it match a haystack, either
    anywhere (a seek) or at position 0 only (anchored)?  Its answer is a span of
    byte offsets.  A well-behaved matcher answers with boundaries of the
    haystack, and with a span that starts at 0 when anchored; nothing here
    forces it to.

    Texts are sought in the bytes of the haystack, characters in its
    characters. -/

namespace TextCursor

/-- A range of byte offsets in a haystack. -/
structure Span where
  start : Nat
  stop : Nat
deriving DecidableEq, Repr

namespace Span

/-- The number of bytes of a span; a fault when it ends before it starts. -/
def length (s : Span) : Checked Nat :=
  checkedDifference s.stop s.start

/-- Whether a span covers no byte. -/
def isEmpty (s : Span) : Bool :=
  s.start == s.stop

/-- The span as a log shows it. -/
def render (s : Span) : Text :=
  "PatternMatch \x7b start: ".toList ++ Text.ofNat s.start ++ ", end: ".toList ++
    Text.ofNat s.stop ++ " \x7d".toList

end Span

/-- What a cursor can look for. -/
structure Matcher where
  /-- Where the matcher matches a haystack: leftmost, or at position 0 when anchored. -/
  find : (haystack : Text) → (anchored : Bool) → Option Span

namespace Matcher

/-- The first index at which a list of bytes holds another one. -/
def firstOccurrence (sought : List UInt8) : List UInt8 → Option Nat
  | [] => if sought.isEmpty then some 0 else none
  | b :: bs =>
    if sought.isPrefixOf (b :: bs) then some 0
    else (firstOccurrence sought bs).map (· + 1)

/-- The byte offset of the first occurrence of a character. -/
def firstIndex (c : Char) : Text → Option Nat
  | [] => none
  | d :: ds => if c = d then some 0 else (firstIndex c ds).map (· + d.utf8Size)

/-- A text that stands for itself. -/
def literal (t : Text) : Matcher where
  find haystack anchored :=
    let found :=
      if anchored then
        if t.bytes.isPrefixOf haystack.bytes then some 0 else none
      else firstOccurrence t.bytes haystack.bytes
    found.map fun start => ⟨start, start + t.width⟩

/-- A single character that stands for itself. -/
def char (c : Char) : Matcher where
  find haystack anchored :=
    let found :=
      if anchored then
        if haystack.head? = some c then some 0 else none
      else firstIndex c haystack
    found.map fun start => ⟨start, start + c.utf8Size⟩

/-- A matcher that gives one answer to every haystack. -/
def fixed (answer : Span) : Matcher where
  find _ _ := some answer

end Matcher

end TextCursor
