import TextCursor.Log
import TextCursor.Matcher

/-! # Events of attempts

    Every attempt to match reports one event. -/

namespace TextCursor

/-- What became of an attempt to match. -/
inductive AttemptEvent where
  /-- The matcher answered that it does not match. -/
  | noMatch (offset : Nat) (anchored advance : Bool)
  /-- The text from `offset` to `stop` was consumed. -/
  | matched (offset stop : Nat) (anchored advance : Bool) (consumed : Text)
  /-- The matcher answered with a span that it may not report. -/
  | brokenContract (found : Span) (anchored : Bool)
deriving DecidableEq, Repr

/-- The log record of an event. -/
def AttemptEvent.record : AttemptEvent → LogRecord
  | .noMatch offset anchored advance =>
    ⟨.trace, "no match",
      [("offset", .number offset), ("anchored", .truth anchored), ("advance", .truth advance)]⟩
  | .matched offset stop anchored advance consumed =>
    ⟨.trace, "matched",
      [("offset", .number offset), ("end", .number stop), ("anchored", .truth anchored),
       ("advance", .truth advance), ("consumed", .text consumed)]⟩
  | .brokenContract found anchored =>
    ⟨.debug, "pattern broke its match contract",
      [("found", .text found.render), ("anchored", .truth anchored)]⟩

end TextCursor
