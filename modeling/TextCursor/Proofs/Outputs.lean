import TextCursor.Proofs.Worlds

/-! # Changes of the output that no instruction notices

    An instruction asks a writer one thing only: whether it takes a byte.  What
    the final flush will meet is nothing to it, nor what was accepted before, nor,
    as long as no byte is refused, that one may be refused later.

    `World.act_onWriter` says this for any change of writers that commutes with a
    write, so that two runs whose outputs differ in such a way can be compared
    instruction by instruction. -/

namespace TextCursor

/-! ## Writers -/

namespace Writer

/-- The writer with another end in store for the final flush. -/
def flushing (flushFailure : Option IoFailure) (w : Writer) : Writer :=
  { w with flushFailure := flushFailure }

/-- The writer as one that has accepted some bytes before all others. -/
def continuing (bytes : Array UInt8) (w : Writer) : Writer :=
  { w with accepted := bytes ++ w.accepted }

/-- The writer with as much accepted that accepts everything from now on. -/
def unlimited (w : Writer) : Writer :=
  { w with script := [], flushFailure := none }

/-- A change of writers that leaves every write as it was. -/
def Unnoticed (change : Writer → Writer) : Prop :=
  ∀ w b, (change w).write b = ((w.write b).1, change (w.write b).2)

variable {w : Writer} {b : UInt8}

/-- How the flush turns out is noticed by no instruction. -/
theorem unnoticed_flushing (flushFailure : Option IoFailure) :
    Unnoticed (flushing flushFailure) := by
  rintro ⟨script, flushFailure', accepted, flushes⟩ b
  simp only [flushing, write]
  rcases offerTo script with ⟨⟨⟩ | ⟨⟩, script'⟩ <;> rfl

/-- What was written before is noticed by no instruction. -/
theorem unnoticed_continuing (bytes : Array UInt8) : Unnoticed (continuing bytes) := by
  rintro ⟨script, flushFailure, accepted, flushes⟩ b
  simp only [continuing, write]
  rcases offerTo script with ⟨⟨⟩ | ⟨⟩, script'⟩
  · rfl
  · simp only [Array.append_push]

/-- A write leaves what the final flush will meet. -/
theorem flushFailure_write (w : Writer) (b : UInt8) :
    (w.write b).2.flushFailure = w.flushFailure := by
  obtain ⟨script, flushFailure, accepted, flushes⟩ := w
  rw [write]
  rcases offerTo script with ⟨⟨⟩ | ⟨⟩, script'⟩ <;> rfl

/-- A flush answers the same, whatever was written before. -/
theorem flush_continuing (bytes : Array UInt8) (w : Writer) :
    (w.continuing bytes).flush = (w.flush.1, w.flush.2.continuing bytes) := by
  obtain ⟨script, ⟨⟩ | failure, accepted, flushes⟩ := w <;> rfl

/-- A flush has nothing to do with what is written. -/
theorem script_flush (w : Writer) : w.flush.2.script = w.script := by
  obtain ⟨script, ⟨⟩ | failure, accepted, flushes⟩ := w <;> rfl

theorem accepted_flush (w : Writer) : w.flush.2.accepted = w.accepted := by
  obtain ⟨script, ⟨⟩ | failure, accepted, flushes⟩ := w <;> rfl

/-- Nothing that was accepted is taken back. -/
theorem write_keeps_accepted (w : Writer) (b : UInt8) :
    w.accepted.toList <+: (w.write b).2.accepted.toList := by
  obtain ⟨script, flushFailure, accepted, flushes⟩ := w
  simp only [write]
  rcases offerTo script with ⟨⟨⟩ | ⟨⟩, rest⟩
  · exact List.prefix_refl _
  · simp

/-- What a writer accepts, one that accepts everything accepts. -/
theorem write_unlimited (h : (w.write b).1 = .ok ()) :
    w.unlimited.write b = (.ok (), (w.write b).2.unlimited) := by
  obtain ⟨script, flushFailure, accepted, flushes⟩ := w
  simp only [unlimited, write] at h ⊢
  rcases hoffer : offerTo script with ⟨⟨⟩ | ⟨⟩, script'⟩
  · rw [hoffer] at h
    cases h
  · rfl

end Writer

/-! ## Worlds -/

namespace World

/-- The world with its writer changed. -/
def onWriter (change : Writer → Writer) (w : World) : World :=
  { w with writer := change w.writer }

variable {w : World} {change : Writer → Writer}

/-- An instruction does the same in a world whose writer is changed, if it is none that writes or
    the change leaves its write as it was. -/
theorem act_onWriter {inputEnd : EndOfInput} {instruction : Char}
    (hwrite : instruction = '.' → (change w.writer).write w.tape.cell
      = ((w.writer.write w.tape.cell).1, change (w.writer.write w.tape.cell).2)) :
    (w.onWriter change).act inputEnd instruction
      = ((w.act inputEnd instruction).1, (w.act inputEnd instruction).2.onWriter change) := by
  obtain ⟨tape, reader, writer⟩ := w
  unfold act
  split
  · rfl
  · rfl
  · rfl
  · rfl
  · have hsame := hwrite rfl
    simp only [onWriter] at hsame ⊢
    rw [hsame]
    rcases writer.write tape.cell with ⟨⟨⟩ | ⟨⟩, writer'⟩ <;> rfl
  · simp only [onWriter]
    rcases reader.read with ⟨⟨⟩ | ⟨⟩, reader'⟩ <;> rfl
  · rfl

/-- An instruction does the same with an output that is changed unnoticed. -/
theorem act_of_unnoticed (h : Writer.Unnoticed change) (inputEnd : EndOfInput)
    (instruction : Char) (w : World) :
    (w.onWriter change).act inputEnd instruction
      = ((w.act inputEnd instruction).1, (w.act inputEnd instruction).2.onWriter change) :=
  act_onWriter fun _ => h w.writer w.tape.cell

/-- A change of worlds that no instruction notices: brackets test the same cell, and every other
    character does what it did before. -/
structure Unnoticed (change : World → World) : Prop where
  cell_eq : ∀ w, (change w).tape.cell = w.tape.cell
  act_eq : ∀ inputEnd instruction w, (change w).act inputEnd instruction
    = ((w.act inputEnd instruction).1, change (w.act inputEnd instruction).2)

/-- A change of writers that no write notices is noticed by no instruction. -/
theorem unnoticed_onWriter (h : Writer.Unnoticed change) : Unnoticed (onWriter change) where
  cell_eq := fun _ => rfl
  act_eq := act_of_unnoticed h

/-- What becomes of the writer when a character is executed. -/
theorem writer_act (w : World) (inputEnd : EndOfInput) (c : Char) :
    (w.act inputEnd c).2.writer = if c = '.' then (w.writer.write w.tape.cell).2 else w.writer := by
  obtain ⟨tape, reader, writer⟩ := w
  unfold act
  split
  · rfl
  · rfl
  · rfl
  · rfl
  · rw [if_pos rfl]
    rcases writer.write tape.cell with ⟨⟨⟩ | ⟨⟩, writer'⟩ <;> rfl
  · rcases reader.read with ⟨⟨⟩ | ⟨⟩, reader'⟩ <;> rfl
  · rename_i hdot _
    rw [if_neg hdot]

/-- No instruction changes what the final flush will meet. -/
theorem flushFailure_act (w : World) (inputEnd : EndOfInput) (instruction : Char) :
    (w.act inputEnd instruction).2.writer.flushFailure = w.writer.flushFailure := by
  rw [writer_act]
  split
  · exact w.writer.flushFailure_write _
  · rfl

end World

end TextCursor
