import TextCursor.Log
import TextCursor.Machine.Stream

/-! # Machine events and errors -/

namespace TextCursor

/-- What a tape machine reports while it runs. -/
inductive MachineEvent where
  /-- A `[` was read; its body is skipped or executed. -/
  | loopStart (start : Nat) (skip : Bool)
  /-- A `]` sends the machine back to its `[`. -/
  | loopRewind (start : Nat)
  /-- A `]` has no `[`. -/
  | unmatchedEnd (offset : Nat)
  /-- The program ended while so many loops were open. -/
  | endedInside (loops : Nat)
deriving DecidableEq, Repr

/-- The log record of an event. -/
def MachineEvent.record : MachineEvent → LogRecord
  | .loopStart start skip =>
    ⟨.trace, "loop start", [("start", .number start), ("skip", .truth skip)]⟩
  | .loopRewind start => ⟨.trace, "loop rewind", [("start", .number start)]⟩
  | .unmatchedEnd offset =>
    ⟨.debug, "loop end without loop start", [("offset", .number offset)]⟩
  | .endedInside loops => ⟨.debug, "program ended inside a loop", [("open", .number loops)]⟩

/-- Why a run failed. -/
inductive MachineError where
  /-- A `]` at a byte offset has no `[`. -/
  | unmatchedLoopEnd (offset : Nat)
  /-- Reading or writing failed. -/
  | io (failure : IoFailure)
deriving DecidableEq, Repr

/-- The text of an error. -/
def MachineError.message : MachineError → Text
  | .unmatchedLoopEnd offset =>
    "found loop end without loop start at offset ".toList ++ Text.ofNat offset
  | .io failure => "io error: ".toList ++ failure.message

end TextCursor
