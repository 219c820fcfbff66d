import TextCursor.Proofs.TapeLayouts

/-! # Longer tapes

    A tape with more cells is another tape for a program that goes around an end, and
    the same for one that does not.  The cells that are added are zeros behind the last
    one, `Tape.lengthen`, and a pointer that stays inside of the shorter tape never
    comes to them.  So the longer tape is the shorter one laid out otherwise, for every
    move that stays inside (`Tape.layout_lengthen`).

    Whether a move stays inside is a matter of the moves that are executed.  Those in a
    loop that is skipped, or behind the end of an endless one, do not count. -/

namespace TextCursor

namespace Tape

/-- The tape with zeros behind its last cell, so many cells in all. -/
def lengthen (cells : Nat) (t : Tape) : Tape :=
  ⟨t.cells ++ Array.replicate (cells - t.cells.size) 0, t.pointer⟩

/-- A move that does not go around an end of the tape. -/
def StaysInside (c : Char) (t : Tape) : Prop :=
  (c = '<' → t.pointer ≠ 0) ∧ (c = '>' → t.pointer + 1 ≠ t.cells.size)

variable {t : Tape} {cells cells' : Nat}

/-- A tape that is lengthened has as many cells as it is to have. -/
theorem size_lengthen (hle : t.cells.size ≤ cells) : (t.lengthen cells).cells.size = cells := by
  show (t.cells ++ Array.replicate (cells - t.cells.size) 0).size = cells
  rw [Array.size_append, Array.size_replicate]
  omega

/-- A longer tape of zeros. -/
theorem lengthen_blank {length length' : Nat} (hle : max length 1 ≤ max length' 1) :
    (blank length).lengthen (max length' 1) = blank length' := by
  have hsize : (blank length).cells.size = max length 1 := Array.size_replicate
  have hall : max length 1 + (max length' 1 - max length 1) = max length' 1 :=
    Nat.add_sub_cancel' hle
  show (⟨Array.replicate (max length 1) 0 ++ Array.replicate (_ - (blank length).cells.size) 0, 0⟩ :
    Tape) = ⟨Array.replicate (max length' 1) 0, 0⟩
  rw [hsize, Array.replicate_append_replicate, hall]

/-- The longer tape is laid out otherwise for all instructions that stay inside of the shorter. -/
theorem layout_lengthen (hle : cells ≤ cells') (fits : cells' < wordLimit) :
    Layout cells StaysInside (lengthen cells') where
  valid := by
    rintro t ⟨hvalid, rfl⟩
    have hsize := size_lengthen hle
    exact ⟨by rw [hsize]; exact Nat.lt_of_lt_of_le hvalid.pointer_lt hle, by rwa [hsize]⟩
  cell_eq := by
    rintro t ⟨hvalid, -⟩
    have hlt : t.pointer < t.cells.size := hvalid.pointer_lt
    show (t.cells ++ _).getD t.pointer 0 = t.cells.getD t.pointer 0
    rw [Array.getD_eq_getD_getElem?, Array.getElem?_append_left hlt, Array.getD_eq_getD_getElem?]
  put_eq := by
    rintro t b ⟨hvalid, -⟩
    have hlt : t.pointer < t.cells.size := hvalid.pointer_lt
    have hsize : (t.put b).cells.size = t.cells.size := Array.size_setIfInBounds
    show (⟨(t.cells ++ _).setIfInBounds t.pointer b, t.pointer⟩ : Tape)
      = ⟨t.cells.setIfInBounds t.pointer b ++ Array.replicate (_ - (t.put b).cells.size) 0,
        t.pointer⟩
    rw [Array.setIfInBounds_append_left hlt, hsize]
  right_eq := by
    rintro t ⟨hvalid, rfl⟩ hstays
    -- the pointer is before the last cell of the shorter tape, so neither tape ends behind it
    have hlt : t.pointer < t.cells.size := hvalid.pointer_lt
    have hlast := hstays.2 rfl
    have hpointer : (t.pointer + 1) % (t.lengthen cells').cells.size
        = (t.pointer + 1) % t.cells.size := by
      rw [size_lengthen hle, Nat.mod_eq_of_lt (by omega), Nat.mod_eq_of_lt (by omega)]
    exact congrArg (Tape.mk (t.lengthen cells').cells) hpointer
  left_eq := by
    rintro t - hstays
    have hfirst := hstays.1 rfl
    have hpointer : (t.lengthen cells').left.pointer = t.left.pointer := by
      show (if t.pointer = 0 then _ else _) = if t.pointer = 0 then _ else _
      rw [if_neg hfirst, if_neg hfirst]
      rfl
    exact congrArg (Tape.mk (t.lengthen cells').cells) hpointer

end Tape

namespace Run

/-- Whether the next round executes a move around an end of the tape. -/
def wraps (r : Run) : Bool :=
  r.executes '<' && r.machine.tape.pointer == 0 ||
    r.executes '>' && r.machine.tape.pointer + 1 == r.machine.tape.cells.size

/-- Whether the round behind so many others executes such a move. -/
def wrapsAt (start : Run) (rounds : Nat) : Bool :=
  match start.runFor rounds with
  | .ok (.running r) => r.wraps
  | _ => false

/-- A run goes around no end of its tape, however long it goes on. -/
def NeverWraps (start : Run) : Prop :=
  ∀ rounds, start.wrapsAt rounds = false

variable {start r : Run} {rounds : Nat}

/-- What a run executes that never wraps stays inside of the tape. -/
theorem NeverWraps.staysInside (h : start.NeverWraps)
    (hrun : start.runFor rounds = .ok (.running r)) {c : Char} (hc : r.executes c = true) :
    r.machine.tape.StaysInside c := by
  have hwraps := h rounds
  rw [wrapsAt, hrun] at hwraps
  obtain ⟨hleft, hright⟩ := Bool.or_eq_false_iff.mp hwraps
  constructor
  · rintro rfl
    rw [hc, Bool.true_and, beq_eq_false_iff_ne] at hleft
    exact hleft
  · rintro rfl
    rw [hc, Bool.true_and, beq_eq_false_iff_ne] at hright
    exact hright

/-- Of a run that ends it can be checked. -/
theorem neverWraps_of_finished {n : Nat} {result : Except MachineError Unit}
    (hend : start.runFor n = .ok (.finished result r))
    (h : ∀ rounds < n, start.wrapsAt rounds = false) : start.NeverWraps := by
  intro rounds
  rcases Nat.lt_or_ge rounds n with hlt | hle
  · exact h rounds hlt
  · -- what has ended stays as it is
    have hover := runFor_add hend (rounds - n)
    rw [Nat.add_sub_cancel' hle] at hover
    rw [wrapsAt, hover]
    rfl

end Run

namespace Machine

/-- **Longer tapes make no difference** to a program that never goes around an end of the shorter
    one: in every round and at the end the pointer is at the same cell of both tapes, and the longer
    one holds all the bytes of the shorter one and zeros behind them. -/
theorem longer_tape_makes_no_difference (program : Text) (inputEnd : EndOfInput)
    {cells cells' : Nat} (hle : max cells 1 ≤ max cells' 1) (hcells' : cells' < wordLimit)
    (fits : program.width < wordLimit) (reader : Reader) (writer : Writer)
    (hstays : ((ofProgram program ⟨cells, inputEnd⟩).start reader writer).NeverWraps) :
    RunsAlike (Tape.lengthen (max cells' 1)) (ofProgram program ⟨cells, inputEnd⟩)
        (ofProgram program ⟨cells', inputEnd⟩) reader writer ∧
      ∀ rounds o,
        ((ofProgram program ⟨cells, inputEnd⟩).start reader writer).runFor rounds = .ok o →
          o.run.machine.tape.cells.size = max cells 1 := by
  have hsize : (Tape.blank cells).cells.size = max cells 1 := Array.size_replicate
  have hone : 1 < wordLimit := by decide
  have hvalid : (Tape.blank cells).Valid := Tape.valid_blank (by omega)
  have hlayout : Tape.Layout (max cells 1) Tape.StaysInside (Tape.lengthen (max cells' 1)) :=
    Tape.layout_lengthen hle (by omega)
  constructor
  · have hblank := (Tape.lengthen_blank hle).symm
    refine runsAlike_of_layout hlayout ⟨hvalid, hsize⟩ fits rfl rfl hblank ?_
    intro rounds r c hrun hc
    exact hstays.staysInside hrun hc
  · intro rounds o hrun
    have hstart := onTape_start (m := ofProgram program ⟨cells, inputEnd⟩) hvalid fits reader writer
    obtain ⟨o', hok, honTape⟩ := hstart.runFor_ok rounds
    obtain rfl := Except.ok.inj (hrun.symm.trans hok)
    exact honTape.size_eq.trans hsize

/-- With a loop that would go around the left end if it were not skipped. -/
theorem longer_tape_behind_a_skipped_move :
    max 2 1 ≤ max 5 1 ∧ 5 < wordLimit ∧
      Text.width ['>', '+', '<', '[', '<', ']', '>', '.'] < wordLimit ∧
      ((ofProgram ['>', '+', '<', '[', '<', ']', '>', '.'] ⟨2, .zero⟩).start (Reader.ofBytes [])
        .accepting).NeverWraps ∧
      Meets (ofProgram ['>', '+', '<', '[', '<', ']', '>', '.'] ⟨5, .zero⟩) (Reader.ofBytes [])
        .accepting
        (.ended (.ok ()) ⟨⟨#[0, 1, 0, 0, 0], 1⟩, Reader.ofBytes [], ⟨[], none, #[1], 1⟩⟩) := by
  have hle : max 2 1 ≤ max 5 1 := by decide
  have hcells : 5 < wordLimit := by decide
  have fits : Text.width ['>', '+', '<', '[', '<', ']', '>', '.'] < wordLimit := by decide
  have hshort : Meets (ofProgram ['>', '+', '<', '[', '<', ']', '>', '.'] ⟨2, .zero⟩)
      (Reader.ofBytes []) .accepting
      (.ended (.ok ()) ⟨⟨#[0, 1], 1⟩, Reader.ofBytes [], ⟨[], none, #[1], 1⟩⟩) :=
    (meets_iff_endsFrom ⟨by decide, by decide⟩ fits).mpr
      (JumpMachine.endsFrom_iff_iterate.mpr ⟨7, rfl⟩)
  have hstays : ((ofProgram ['>', '+', '<', '[', '<', ']', '>', '.'] ⟨2, .zero⟩).start
      (Reader.ofBytes []) .accepting).NeverWraps := by
    have hend : ((ofProgram ['>', '+', '<', '[', '<', ']', '>', '.'] ⟨2, .zero⟩).start
        (Reader.ofBytes []) .accepting).runFor 8 = .ok (.finished (.ok ())
          ⟨⟨['>', '+', '<', '[', '<', ']', '>', '.'], ⟨2, .zero⟩, ⟨#[0, 1], 1⟩, []⟩,
            ⟨['>', '+', '<', '[', '<', ']', '>', '.'], 8, none, Window.standard⟩,
            Reader.ofBytes [], ⟨[], none, #[1], 1⟩, #[.loopStart 3 true]⟩) := by
      decide +kernel
    exact Run.neverWraps_of_finished hend (by decide +kernel)
  exact ⟨hle, hcells, fits, hstays, ((longer_tape_makes_no_difference _ .zero hle hcells fits _ _
    hstays).1.meets_iff _).mpr ⟨_, hshort, rfl⟩⟩

end Machine

end TextCursor
