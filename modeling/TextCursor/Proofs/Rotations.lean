import TextCursor.Proofs.TapeLayouts
import TextCursor.Proofs.TapeRing

/-! # No cell is the first one

    A tape that is rotated, with its pointer, is laid out otherwise
    (`Tape.layout_rotate`), and no instruction is an exception: the two ends of the
    tape are in other places, but on a ring they are nowhere.  So a run does the same
    from wherever on the ring it starts, if the bytes are moved along.

    A fresh machine has nothing to move along.  All its bytes are zero, so the cell that
    it starts from makes no difference to what is seen of its runs. -/

namespace TextCursor

/-- Rotated tapes are laid out otherwise for all instructions. -/
theorem Tape.layout_rotate (cells k : Nat) :
    Tape.Layout cells (fun _ _ => True) (Tape.rotate k) where
  valid := fun _ ht => ht.toValid.rotate k
  cell_eq := fun _ ht => ht.toValid.cell_rotate k
  put_eq := fun _ b ht => (ht.toValid.rotate_put k b).symm
  right_eq := fun t _ _ => (t.rotate_right k).symm
  left_eq := fun _ ht _ => (ht.toValid.rotate_left k).symm

/-- What is seen of a run from outside: how it has ended, if it has, what it has read and what it
    has written. -/
def Outcome.seen : Outcome → Option (Except MachineError Unit) × Reader × Writer
  | .running r => (none, r.reader, r.writer)
  | .finished result r => (some result, r.reader, r.writer)

/-- How the tape is laid out is not seen from outside. -/
theorem Outcome.seen_retaped (setup : MachineSetup) (move : Tape → Tape) (o : Outcome) :
    (o.retaped setup move).seen = o.seen := by
  cases o <;> rfl

namespace Machine

variable {m : Machine}

/-- **The tape is a ring**: a run on a tape that is rotated by any number of cells, its pointer too,
    is the run on the tape, rotated, in every round and at the end.  What is seen of a fresh machine
    does not depend on the cell from which it starts. -/
theorem tape_is_a_ring (htape : m.tape.Valid) (fits : m.program.width < wordLimit)
    (reader : Reader) (writer : Writer) :
    (∀ k, RunsAlike (Tape.rotate k) m { m with tape := m.tape.rotate k } reader writer) ∧
      (m = ofProgram m.program m.setup → ∀ cell < m.tape.cells.size, ∀ rounds,
        (({ m with tape := ⟨m.tape.cells, cell⟩ }.start reader writer).runFor rounds).map
            Outcome.seen
          = ((m.start reader writer).runFor rounds).map Outcome.seen) := by
  have hring : ∀ k, RunsAlike (Tape.rotate k) m { m with tape := m.tape.rotate k } reader writer :=
    fun k => runsAlike_of_layout (Tape.layout_rotate m.tape.cells.size k) ⟨htape, rfl⟩ fits rfl rfl
      rfl fun _ _ _ _ _ => trivial
  refine ⟨hring, fun hfresh cell hcell rounds => ?_⟩
  have hblank : m.tape = Tape.blank m.setup.cells := congrArg Machine.tape hfresh
  -- to rotate a tape of zeros is to start from another cell
  have hrotated : m.tape.rotate cell = ⟨m.tape.cells, cell⟩ := by
    rw [hblank] at hcell ⊢
    exact Tape.rotate_blank m.setup.cells hcell
  have hround := (hring cell).round_by_round rounds
  rw [hrotated] at hround
  rw [hround]
  cases (m.start reader writer).runFor rounds with
  | error fault => rfl
  | ok o => exact congrArg Except.ok (Outcome.seen_retaped _ _ o)

/-- From the first of three cells this program goes around the left end of the tape, from the second
    one it does not, and from the third one around the right end. -/
theorem ring_of_three_cells :
    (ofProgram [',', '<', '.', '>', '[', '.', '-', ']', '+'] ⟨3, .zero⟩).tape.Valid ∧
      Text.width [',', '<', '.', '>', '[', '.', '-', ']', '+'] < wordLimit ∧
      Meets ⟨[',', '<', '.', '>', '[', '.', '-', ']', '+'], ⟨3, .zero⟩, ⟨#[0, 0, 0], 1⟩, []⟩
        (Reader.ofBytes [2]) .accepting
        (.ended (.ok ()) ⟨⟨#[0, 1, 0], 1⟩, Reader.ofBytes [], ⟨[], none, #[0, 2, 1], 1⟩⟩) ∧
      ∀ rounds,
        ((start ⟨[',', '<', '.', '>', '[', '.', '-', ']', '+'], ⟨3, .zero⟩, ⟨#[0, 0, 0], 2⟩, []⟩
          (Reader.ofBytes [2]) .accepting).runFor rounds).map Outcome.seen
        = ((start (ofProgram [',', '<', '.', '>', '[', '.', '-', ']', '+'] ⟨3, .zero⟩)
          (Reader.ofBytes [2]) .accepting).runFor rounds).map Outcome.seen := by
  have htape : (ofProgram [',', '<', '.', '>', '[', '.', '-', ']', '+'] ⟨3, .zero⟩).tape.Valid :=
    ⟨by decide, by decide⟩
  have fits : Text.width [',', '<', '.', '>', '[', '.', '-', ']', '+'] < wordLimit := by decide
  have hring := tape_is_a_ring htape fits (Reader.ofBytes [2]) .accepting
  have hfirst : Meets (ofProgram [',', '<', '.', '>', '[', '.', '-', ']', '+'] ⟨3, .zero⟩)
      (Reader.ofBytes [2]) .accepting
      (.ended (.ok ()) ⟨⟨#[1, 0, 0], 0⟩, Reader.ofBytes [], ⟨[], none, #[0, 2, 1], 1⟩⟩) :=
    (meets_iff_endsFrom htape fits).mpr (JumpMachine.endsFrom_iff_iterate.mpr ⟨16, rfl⟩)
  have hsecond := ((hring.1 4).meets_iff _).mpr ⟨_, hfirst, rfl⟩
  exact ⟨htape, fits, hsecond, hring.2 rfl 2 (by decide)⟩

end Machine

end TextCursor
