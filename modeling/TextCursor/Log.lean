import TextCursor.Text

/-! # Log records

    What a cursor and the tape machine report while they work: a level, a
    message and named fields. -/

namespace TextCursor

/-- How important a record is. -/
inductive Level where
  /-- A step of ordinary work. -/
  | trace
  /-- Something that points at a mistake in a pattern or a program. -/
  | debug
deriving DecidableEq, Repr

/-- The name of a level in a log. -/
def Level.name : Level → String
  | .trace => "TRACE"
  | .debug => "DEBUG"

/-- The value of a field. -/
inductive FieldValue where
  | number (n : Nat)
  | truth (b : Bool)
  | text (t : Text)
deriving DecidableEq, Repr

/-- One line of a log. -/
structure LogRecord where
  level : Level
  message : String
  fields : List (String × FieldValue)
deriving DecidableEq, Repr

end TextCursor
