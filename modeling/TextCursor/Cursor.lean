import TextCursor.Cursor.Event
import TextCursor.Cursor.Window
import TextCursor.Matcher
import TextCursor.Text.Quoted

/-! # Cursors

    A cursor walks a text with a byte offset and remembers the text consumed by
    its latest successful attempt to match.  An attempt consumes everything from
    the offset before it through the end of the span that the matcher reports,
    so a seek also consumes what it passed over.

    A span that starts away from the offset although the attempt is anchored,
    that ends before it starts, or that ends off the text or inside a character
    counts as no match.  An attempt that fails changes nothing; only `reset` and
    `terminate` forget the latest match. -/

namespace TextCursor

/-- A place in a text. -/
structure Cursor where
  /-- The full text. -/
  text : Text
  /-- The byte offset reached. -/
  offset : Nat
  /-- The text consumed by the latest successful attempt. -/
  latest : Option Text
  /-- How the cursor shows itself. -/
  window : Window
deriving DecidableEq, Repr

/-- What an attempt to match comes to. -/
structure Attempt where
  /-- The text consumed, if the attempt succeeded. -/
  consumed : Option Text
  /-- The cursor afterwards. -/
  cursor : Cursor
  /-- What is reported about it. -/
  event : AttemptEvent
deriving DecidableEq, Repr

namespace Cursor

/-- A cursor at the start of a text. -/
def ofText (text : Text) (window : Window) : Cursor :=
  ⟨text, 0, none, window⟩

/-- The text that is not consumed yet. -/
def rest (c : Cursor) : Checked Text :=
  c.text.after c.offset

/-- Whether the offset has reached the end of the text. -/
def atEnd (c : Cursor) : Bool :=
  c.text.width ≤ c.offset

/-- Moves the offset to the boundary at or below a position, and reports where it went. -/
def moveTo (c : Cursor) (position : Nat) : Checked (Nat × Cursor) := do
  let stored ← c.text.boundaryBelow position
  return (stored, { c with offset := stored })

/-- The text that a reported span consumes; none when the span is ill-formed. -/
def consumedBy (c : Cursor) (found : Span) (anchored : Bool) : Option Text :=
  match wordSum? c.offset found.stop with
  | some stop =>
    if (!anchored || found.start == 0) && found.start ≤ found.stop then
      c.text.slice? c.offset stop
    else none
  | none => none

/-- Matches against the rest, at its start when anchored; moves only to advance. -/
def attempt (c : Cursor) (m : Matcher) (advance anchored : Bool) : Checked Attempt := do
  let haystack ← c.rest
  match m.find haystack anchored with
  | none => return ⟨none, c, .noMatch c.offset anchored advance⟩
  | some found =>
    match c.consumedBy found anchored with
    | none => return ⟨none, c, .brokenContract found anchored⟩
    | some consumed => do
      let stop ← checkedSum c.offset consumed.width
      return ⟨some consumed,
        { c with offset := if advance then stop else c.offset, latest := some consumed },
        .matched c.offset stop anchored advance consumed⟩

/-- Matches at the offset and moves past the match. -/
def scan (c : Cursor) (m : Matcher) : Checked Attempt :=
  c.attempt m true true

/-- Seeks a match and moves past it, consuming what stands before it too. -/
def scanUntil (c : Cursor) (m : Matcher) : Checked Attempt :=
  c.attempt m true false

/-- Answers what `scan` would, and stays. -/
def check (c : Cursor) (m : Matcher) : Checked Attempt :=
  c.attempt m false true

/-- Answers what `scanUntil` would, and stays. -/
def checkUntil (c : Cursor) (m : Matcher) : Checked Attempt :=
  c.attempt m false false

/-- The character that starts at an absolute position. -/
def charFrom (c : Cursor) (index : Nat) : Checked (Option Char) :=
  if c.text.width ≤ index || !c.text.isBoundary index then .ok none
  else (c.text.after index).map List.head?

/-- Up to so many bytes from the offset, rounded up to whole characters. -/
def peek (c : Cursor) (length : Nat) : Checked Text := do
  let stop ← c.text.boundaryAbove (saturatingSum c.offset length)
  c.text.slice c.offset stop

/-- Moves past what `peek` answers. -/
def take (c : Cursor) (length : Nat) : Checked (Text × Cursor) := do
  let taken ← c.peek length
  let stop ← checkedSum c.offset taken.width
  return (taken, { c with offset := stop })

/-- Moves to the start of the text and forgets the latest match. -/
def reset (c : Cursor) : Cursor :=
  { c with offset := 0, latest := none }

/-- Moves to the end of the text and forgets the latest match. -/
def terminate (c : Cursor) : Cursor :=
  { c with offset := c.text.width, latest := none }

/-- The characters in the window: it begins `lead` characters before the offset, and further left
    where the text ends too soon to fill it. -/
def shown (c : Cursor) : Checked Text := do
  let passed ← c.text.before c.offset
  let first := min (passed.length - c.window.lead) (c.text.length - c.window.width)
  return (c.text.drop first).take c.window.width

/-- The offset, the width of the text and the characters in the window. -/
def summary (c : Cursor) : Checked Text := do
  let shown ← c.shown
  return "Scanner(".toList ++ Text.ofNat c.offset ++ "/".toList ++ Text.ofNat c.text.width ++
    " \"".toList ++ shown ++ "\")".toList

/-- All fields of a cursor, by name. -/
def render (c : Cursor) : Text :=
  let latest :=
    match c.latest with
    | none => "None".toList
    | some t => "Some(".toList ++ Text.Quoted.write t ++ ")".toList
  "Scanner \x7b text: ".toList ++ Text.Quoted.write c.text ++ ", offset: ".toList ++
    Text.ofNat c.offset ++ ", last_match: ".toList ++ latest ++ ", options: ".toList ++
    c.window.render ++ " \x7d".toList

end Cursor

end TextCursor
