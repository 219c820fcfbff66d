import TextCursor.Fault

/-! # The tape

    A ring of byte cells with a pointer to the current one.  Cells wrap around
    at 255 and 0, and the pointer wraps around at both ends. -/

namespace TextCursor

/-- Cells and the index of the current one. -/
structure Tape where
  cells : Array UInt8
  pointer : Nat
deriving DecidableEq, Repr

namespace Tape

/-- A tape of zeros with the pointer at its first cell; it has at least one cell. -/
def blank (length : Nat) : Tape :=
  ⟨Array.replicate (max length 1) 0, 0⟩

/-- The byte in the current cell. -/
def current (t : Tape) : Checked UInt8 :=
  match t.cells[t.pointer]? with
  | some b => .ok b
  | none => .error .index

/-- Puts a byte into the current cell. -/
def store (t : Tape) (b : UInt8) : Checked Tape :=
  match t with
  | ⟨cells, pointer⟩ =>
    if h : pointer < cells.size then .ok ⟨cells.set pointer b h, pointer⟩ else .error .index

/-- Moves the pointer one cell on, from the last cell to the first. -/
def moveRight (t : Tape) : Checked Tape :=
  match t with
  | ⟨cells, pointer⟩ => do
    let next ← checkedSum pointer 1
    if cells.size = 0 then .error .modulus else return ⟨cells, next % cells.size⟩

/-- Moves the pointer one cell back, from the first cell to the last. -/
def moveLeft (t : Tape) : Checked Tape :=
  match t with
  | ⟨cells, 0⟩ => do return ⟨cells, ← checkedDifference cells.size 1⟩
  | ⟨cells, pointer + 1⟩ => .ok ⟨cells, pointer⟩

/-- Adds one to the current cell. -/
def increment (t : Tape) : Checked Tape := do
  let b ← t.current
  t.store (b + 1)

/-- Takes one from the current cell. -/
def decrement (t : Tape) : Checked Tape := do
  let b ← t.current
  t.store (b - 1)

/-- The cells that are not zero, by index. -/
def nonzero (t : Tape) : List (Nat × UInt8) :=
  (t.cells.toList.zipIdx.filter fun (b, _) => b ≠ 0).map fun (b, i) => (i, b)

end Tape

end TextCursor
