import TextCursor.Machine
import TextCursor.Proofs.CursorSafety

/-! # What instructions do

    The six instructions that are no brackets act on a tape, a reader and a
    writer only: that is a `World`.  `World.act` says without faults what each of
    them does, in terms of the current cell and of its neighbours on the ring.

    On a tape whose pointer is one of its cells the machine does exactly that:
    `step_act` for a run that executes, `step_skipping` for one that skips. -/

namespace TextCursor

/-! ## The tape -/

namespace Tape

/-- A tape whose pointer is one of its cells, and whose indices are words. -/
structure Valid (t : Tape) : Prop where
  pointer_lt : t.pointer < t.cells.size
  fits : t.cells.size < wordLimit

/-- The byte in the current cell. -/
def cell (t : Tape) : UInt8 :=
  t.cells.getD t.pointer 0

/-- The tape with another byte in the current cell. -/
def put (t : Tape) (b : UInt8) : Tape :=
  ⟨t.cells.setIfInBounds t.pointer b, t.pointer⟩

/-- The tape with the pointer one cell on. -/
def right (t : Tape) : Tape :=
  ⟨t.cells, (t.pointer + 1) % t.cells.size⟩

/-- The tape with the pointer one cell back. -/
def left (t : Tape) : Tape :=
  ⟨t.cells, if t.pointer = 0 then t.cells.size - 1 else t.pointer - 1⟩

variable {t : Tape}

/-- A blank tape is valid. -/
theorem valid_blank {length : Nat} (h : length < wordLimit) : (blank length).Valid where
  pointer_lt := by
    show 0 < (Array.replicate (max length 1) (0 : UInt8)).size
    rw [Array.size_replicate]
    omega
  fits := by
    have hone : 1 < wordLimit := by decide
    show (Array.replicate (max length 1) (0 : UInt8)).size < wordLimit
    rw [Array.size_replicate]
    omega

namespace Valid

/-- A byte that is put leaves a valid tape. -/
theorem put (h : t.Valid) (b : UInt8) : (t.put b).Valid where
  pointer_lt := by
    show t.pointer < (t.cells.setIfInBounds t.pointer b).size
    rw [Array.size_setIfInBounds]
    exact h.pointer_lt
  fits := by
    show (t.cells.setIfInBounds t.pointer b).size < wordLimit
    rw [Array.size_setIfInBounds]
    exact h.fits

theorem right (h : t.Valid) : t.right.Valid where
  pointer_lt := Nat.mod_lt _ (Nat.lt_of_le_of_lt (Nat.zero_le _) h.pointer_lt)
  fits := h.fits

theorem left (h : t.Valid) : t.left.Valid where
  pointer_lt := by
    have := h.pointer_lt
    show (if t.pointer = 0 then t.cells.size - 1 else t.pointer - 1) < t.cells.size
    split <;> omega
  fits := h.fits

theorem current_eq (h : t.Valid) : t.current = .ok t.cell := by
  rw [current, cell, Array.getElem?_eq_getElem h.pointer_lt, Array.getD, dif_pos h.pointer_lt]
  rfl

theorem store_eq (h : t.Valid) (b : UInt8) : t.store b = .ok (t.put b) := by
  obtain ⟨cells, pointer⟩ := t
  have hlt : pointer < cells.size := h.pointer_lt
  rw [store, dif_pos hlt, Tape.put, Array.setIfInBounds, dif_pos hlt]

theorem moveRight_eq (h : t.Valid) : t.moveRight = .ok t.right := by
  obtain ⟨cells, pointer⟩ := t
  have hlt : pointer < cells.size := h.pointer_lt
  have hfits : cells.size < wordLimit := h.fits
  rw [moveRight, checkedSum_of_lt (by omega)]
  show (if cells.size = 0 then _ else _) = _
  rw [if_neg (by omega)]
  rfl

theorem moveLeft_eq (h : t.Valid) : t.moveLeft = .ok t.left := by
  obtain ⟨cells, pointer⟩ := t
  have hlt : pointer < cells.size := h.pointer_lt
  cases pointer with
  | zero =>
      rw [moveLeft, checkedDifference_of_le (by omega)]
      rfl
  | succ pointer => rfl

/-- On a valid tape counting up wraps around and meets no fault. -/
theorem increment_eq (h : t.Valid) : t.increment = .ok (t.put (t.cell + 1)) := by
  rw [increment, h.current_eq]
  exact h.store_eq (t.cell + 1)

theorem decrement_eq (h : t.Valid) : t.decrement = .ok (t.put (t.cell - 1)) := by
  rw [decrement, h.current_eq]
  exact h.store_eq (t.cell - 1)

end Valid

end Tape

/-! ## The world of a run -/

/-- A write does not flush. -/
theorem Writer.flushes_write (writer : Writer) (b : UInt8) :
    (writer.write b).2.flushes = writer.flushes := by
  obtain ⟨script, flushFailure, accepted, flushes⟩ := writer
  rw [write]
  rcases offerTo script with ⟨⟨⟩ | ⟨⟩, script'⟩ <;> rfl

/-- What a run works on besides its program: the tape, the input and the output. -/
structure World where
  tape : Tape
  reader : Reader
  writer : Writer
deriving DecidableEq, Repr

namespace World

/-- The tape after a read: the byte read, or what the end of the input stores. -/
def received (inputEnd : EndOfInput) (answer : Option UInt8) (t : Tape) : Tape :=
  match answer, inputEnd with
  | some b, _ => t.put b
  | none, .zero => t.put 0
  | none, .allOnes => t.put 255
  | none, .unchanged => t

/-- What a character that is no bracket does when it is executed, and why it fails if it does. -/
def act (inputEnd : EndOfInput) (instruction : Char) (w : World) : Option IoFailure × World :=
  match instruction with
  | '>' => (none, { w with tape := w.tape.right })
  | '<' => (none, { w with tape := w.tape.left })
  | '+' => (none, { w with tape := w.tape.put (w.tape.cell + 1) })
  | '-' => (none, { w with tape := w.tape.put (w.tape.cell - 1) })
  | '.' =>
    match w.writer.write w.tape.cell with
    | (.ok (), writer) => (none, { w with writer := writer })
    | (.error failure, writer) => (some failure, { w with writer := writer })
  | ',' =>
    match w.reader.read with
    | (.ok answer, reader) =>
      (none, { w with tape := received inputEnd answer w.tape, reader := reader })
    | (.error failure, reader) => (some failure, { w with reader := reader })
  | _ => (none, w)

/-- What ends a run at the end of its program. -/
def flushed (w : World) : Except MachineError Unit × World :=
  ((w.writer.flush.1).mapError .io, { w with writer := w.writer.flush.2 })

variable {w : World} {inputEnd : EndOfInput}

/-- What is received leaves a valid tape. -/
theorem valid_received {t : Tape} (h : t.Valid) (answer : Option UInt8) :
    (received inputEnd answer t).Valid := by
  unfold received
  split
  · exact h.put _
  · exact h.put _
  · exact h.put _
  · exact h

/-- No instruction moves the pointer off the tape. -/
theorem valid_act (h : w.tape.Valid) (inputEnd : EndOfInput) (instruction : Char) :
    (w.act inputEnd instruction).2.tape.Valid := by
  unfold act
  split
  · exact h.right
  · exact h.left
  · exact h.put _
  · exact h.put _
  · split <;> exact h
  · split
    · exact valid_received h _
    · exact h
  · exact h

/-- No instruction flushes the output. -/
theorem flushes_act (w : World) (inputEnd : EndOfInput) (instruction : Char) :
    (w.act inputEnd instruction).2.writer.flushes = w.writer.flushes := by
  have hwrite := w.writer.flushes_write w.tape.cell
  unfold act
  split
  · rfl
  · rfl
  · rfl
  · rfl
  · split
    · rename_i h
      rw [h] at hwrite
      exact hwrite
    · rename_i h
      rw [h] at hwrite
      exact hwrite
  · split <;> rfl
  · rfl

/-- A flush is counted, whether it succeeds or not. -/
theorem flushes_flushed (w : World) : w.flushed.2.writer.flushes = w.writer.flushes + 1 := by
  show w.writer.flush.2.flushes = _
  unfold Writer.flush
  split <;> rfl

end World

/-! ## Instructions of a run -/

namespace Run

/-- The world of a run. -/
def world (r : Run) : World :=
  ⟨r.machine.tape, r.reader, r.writer⟩

/-- The run in another world. -/
def withWorld (r : Run) (w : World) : Run :=
  { r with machine := { r.machine with tape := w.tape }, reader := w.reader, writer := w.writer }

variable {r : Run} {d : Char}

/-- While the innermost open loop is skipped, what is no bracket does nothing. -/
theorem step_skipping (hopen : d ≠ '[') (hclose : d ≠ ']') (hskip : r.machine.isSkipping = true) :
    r.step d = .ok (none, r) := by
  unfold step
  split
  · exact absurd rfl hopen
  · exact absurd rfl hclose
  · rw [if_pos hskip]
    rfl

/-- What is done to the tape leaves the input and the output. -/
theorem onTape_eq {change : Tape → Checked Tape} {t : Tape}
    (h : change r.machine.tape = .ok t) :
    r.onTape change = .ok (r.withWorld { r.world with tape := t }) := by
  obtain ⟨⟨program, setup, tape, loops⟩, cursor, reader, writer, log⟩ := r
  have hchange : change tape = .ok t := h
  rw [onTape, hchange]
  rfl

/-- A `.` of the machine acts on the world. -/
theorem writeCell_eq (htape : r.machine.tape.Valid) :
    r.writeCell = .ok (((r.world.act r.machine.setup.inputEnd '.').1.map .io),
      r.withWorld (r.world.act r.machine.setup.inputEnd '.').2) := by
  obtain ⟨⟨program, setup, tape, loops⟩, cursor, reader, writer, log⟩ := r
  have htape' : tape.Valid := htape
  dsimp only [writeCell, World.act, world]
  rw [htape'.current_eq, ok_bind]
  rcases writer.write tape.cell with ⟨⟨⟩ | ⟨⟩, writer'⟩ <;> rfl

/-- So does a `,`, which may find bytes, the end of the input, or a failure. -/
theorem readCell_eq (htape : r.machine.tape.Valid) :
    r.readCell = .ok (((r.world.act r.machine.setup.inputEnd ',').1.map .io),
      r.withWorld (r.world.act r.machine.setup.inputEnd ',').2) := by
  obtain ⟨⟨program, setup, tape, loops⟩, cursor, reader, writer, log⟩ := r
  have htape' : tape.Valid := htape
  have hstore : ∀ reader' b, onTape ⟨⟨program, setup, tape, loops⟩, cursor, reader', writer, log⟩
      (·.store b) = .ok ⟨⟨program, setup, tape.put b, loops⟩, cursor, reader', writer, log⟩ :=
    fun reader' b => onTape_eq (htape'.store_eq b)
  dsimp only [readCell, World.act, world]
  rcases reader.read with ⟨failure | _ | b, reader'⟩
  · rfl
  · cases setup.inputEnd with
    | zero =>
        simp only [hstore]
        rfl
    | allOnes =>
        simp only [hstore]
        rfl
    | unchanged =>
        rfl
  · simp only [hstore]
    rfl

/-- On a valid tape a run that executes does what the world does. -/
theorem step_act (hopen : d ≠ '[') (hclose : d ≠ ']') (hskip : r.machine.isSkipping = false)
    (htape : r.machine.tape.Valid) :
    r.step d = .ok (((r.world.act r.machine.setup.inputEnd d).1.map .io),
      r.withWorld (r.world.act r.machine.setup.inputEnd d).2) := by
  unfold step
  split
  · exact absurd rfl hopen
  · exact absurd rfl hclose
  · rw [if_neg (by rw [hskip]; exact Bool.false_ne_true)]
    split
    · rw [onTape_eq htape.moveRight_eq]
      rfl
    · rw [onTape_eq htape.moveLeft_eq]
      rfl
    · rw [onTape_eq htape.increment_eq]
      rfl
    · rw [onTape_eq htape.decrement_eq]
      rfl
    · exact writeCell_eq htape
    · exact readCell_eq htape
    · -- every other character is a comment on both sides
      rename_i hright hleft hplus hminus hdot hcomma
      unfold World.act
      split
      · exact absurd rfl hright
      · exact absurd rfl hleft
      · exact absurd rfl hplus
      · exact absurd rfl hminus
      · exact absurd rfl hdot
      · exact absurd rfl hcomma
      · rfl

end Run

end TextCursor
