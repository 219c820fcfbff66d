import TextCursor.Cursor

/-! # Commands

    The operations of a cursor as data, so that a session is a list of commands.
    `Cursor.perform` answers a command with a reply, the cursor afterwards and
    the events reported on the way. -/

namespace TextCursor

/-- The six ways to match. -/
inductive MatchMode where
  /-- Matches at the offset and moves. -/
  | scan
  /-- Seeks and moves. -/
  | scanUntil
  /-- Matches at the offset and stays. -/
  | check
  /-- Seeks and stays. -/
  | checkUntil
  /-- Scans and answers with a length. -/
  | skip
  /-- Seeks, moves and answers with a length. -/
  | skipUntil
deriving DecidableEq, Repr

namespace MatchMode

/-- Whether the match has to start at the offset. -/
def anchored : MatchMode → Bool
  | scan | check | skip => true
  | scanUntil | checkUntil | skipUntil => false

/-- Whether a match moves the cursor. -/
def advances : MatchMode → Bool
  | scan | scanUntil | skip | skipUntil => true
  | check | checkUntil => false

end MatchMode

/-- An operation of a cursor with its arguments. -/
inductive Command where
  | attempt (mode : MatchMode) (m : Matcher)
  | peek (length : Nat)
  | take (length : Nat)
  | moveTo (position : Nat)
  | charFrom (index : Nat)
  | text
  | rest
  | atEnd
  | summary
  | render
  | reset
  | terminate

/-- The answer to a command. -/
inductive Reply where
  /-- No match, no character, or nothing to say. -/
  | nothing
  | text (t : Text)
  | number (n : Nat)
  | truth (b : Bool)
deriving DecidableEq, Repr

namespace Reply

/-- A text, if there is one. -/
def ofText? : Option Text → Reply
  | some t => .text t
  | none => .nothing

/-- The width of a text, if there is one. -/
def ofWidth? : Option Text → Reply
  | some t => .number t.width
  | none => .nothing

/-- A character as a text of its own, if there is one. -/
def ofChar? : Option Char → Reply
  | some c => .text [c]
  | none => .nothing

end Reply

/-- A reply with the cursor it leaves and the events it reports. -/
structure Performed where
  reply : Reply
  cursor : Cursor
  events : List AttemptEvent
deriving DecidableEq, Repr

namespace Cursor

/-- Matches in one of the six ways. -/
def attemptBy (c : Cursor) (mode : MatchMode) (m : Matcher) : Checked Performed := do
  match mode with
  | .scan => let a ← c.scan m; return ⟨.ofText? a.consumed, a.cursor, [a.event]⟩
  | .scanUntil => let a ← c.scanUntil m; return ⟨.ofText? a.consumed, a.cursor, [a.event]⟩
  | .check => let a ← c.check m; return ⟨.ofText? a.consumed, a.cursor, [a.event]⟩
  | .checkUntil => let a ← c.checkUntil m; return ⟨.ofText? a.consumed, a.cursor, [a.event]⟩
  | .skip => let a ← c.scan m; return ⟨.ofWidth? a.consumed, a.cursor, [a.event]⟩
  | .skipUntil => let a ← c.scanUntil m; return ⟨.ofWidth? a.consumed, a.cursor, [a.event]⟩

/-- Performs one command. -/
def perform (c : Cursor) : Command → Checked Performed
  | .attempt mode m => c.attemptBy mode m
  | .peek length => do return ⟨.text (← c.peek length), c, []⟩
  | .take length => do
    let (taken, c') ← c.take length
    return ⟨.text taken, c', []⟩
  | .moveTo position => do
    let (stored, c') ← c.moveTo position
    return ⟨.number stored, c', []⟩
  | .charFrom index => do return ⟨.ofChar? (← c.charFrom index), c, []⟩
  | .text => .ok ⟨.text c.text, c, []⟩
  | .rest => do return ⟨.text (← c.rest), c, []⟩
  | .atEnd => .ok ⟨.truth c.atEnd, c, []⟩
  | .summary => do return ⟨.text (← c.summary), c, []⟩
  | .render => .ok ⟨.text c.render, c, []⟩
  | .reset => .ok ⟨.nothing, c.reset, []⟩
  | .terminate => .ok ⟨.nothing, c.terminate, []⟩

/-- Performs commands one after another; the answers stand in the order of the commands. -/
def performAll (c : Cursor) : List Command → Checked (List Performed)
  | [] => .ok []
  | command :: commands => do
    let p ← c.perform command
    return p :: (← p.cursor.performAll commands)

end Cursor

end TextCursor
