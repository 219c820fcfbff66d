import TextCursor.Text

/-! # Machine setups

    The number of cells on the tape, and what a read stores when the input has
    ended. -/

namespace TextCursor

/-- What `,` stores in the current cell when the input has ended. -/
inductive EndOfInput where
  /-- Stores 0. -/
  | zero
  /-- Stores 255. -/
  | allOnes
  /-- Leaves the cell as it is. -/
  | unchanged
deriving DecidableEq, Repr

namespace EndOfInput

/-- The written name of a behaviour. -/
def name : EndOfInput → String
  | .zero => "Zero"
  | .allOnes => "AllOnes"
  | .unchanged => "Unchanged"

/-- The behaviours in the order in which a message lists them. -/
def all : List EndOfInput :=
  [.zero, .allOnes, .unchanged]

end EndOfInput

/-- How a tape machine is set up. -/
structure MachineSetup where
  /-- Number of cells on the tape; none counts as one. -/
  cells : Nat := 30000
  /-- What a read stores when the input has ended. -/
  inputEnd : EndOfInput := .zero
deriving DecidableEq, Repr

namespace MachineSetup

/-- Thirty thousand cells, and 0 at the end of the input. -/
def standard : MachineSetup := {}

/-- The setup with the names of its fields. -/
def render (s : MachineSetup) : Text :=
  "InterpreterOptions \x7b tape_len: ".toList ++ Text.ofNat s.cells ++
    ", eof: ".toList ++ s.inputEnd.name.toList ++ " \x7d".toList

end MachineSetup

end TextCursor
