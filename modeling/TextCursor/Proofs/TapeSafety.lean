import TextCursor.Proofs.Fates

/-! # Runs stay on the tape

    A tape has the cells it was made with, at least one, and its pointer is one of
    them.  No instruction changes their number (`World.size_act`), so no round and
    no run does, and a machine keeps them from one run to the next, whether a run
    has succeeded or failed (`Machine.Reached.intact`).  On such a tape every
    operation is safe, `Tape.Usable`.

    A bracket is a single byte that the cursor has just passed when it is executed,
    so the offset less one is where it stands; that needs the cursor to be at a cut
    of the program, which is the invariant of rounds.

    What a run leaves behind besides its tape are the loops that were open when it
    stopped, and the next run starts without them. -/

namespace TextCursor

/-! ## Cells -/

namespace Tape

variable {t : Tape}

/-- Putting a byte leaves the number of cells. -/
theorem size_put (t : Tape) (b : UInt8) : (t.put b).cells.size = t.cells.size :=
  Array.size_setIfInBounds

/-- None of the operations of a tape meets a fault. -/
structure Usable (t : Tape) : Prop where
  current : ∃ b, t.current = .ok b
  store : ∀ b, ∃ t', t.store b = .ok t'
  moveRight : ∃ t', t.moveRight = .ok t'
  moveLeft : ∃ t', t.moveLeft = .ok t'
  increment : ∃ t', t.increment = .ok t'
  decrement : ∃ t', t.decrement = .ok t'

/-- A valid tape is usable. -/
theorem Valid.usable (h : t.Valid) : t.Usable where
  current := ⟨_, h.current_eq⟩
  store := fun b => ⟨_, h.store_eq b⟩
  moveRight := ⟨_, h.moveRight_eq⟩
  moveLeft := ⟨_, h.moveLeft_eq⟩
  increment := ⟨_, h.increment_eq⟩
  decrement := ⟨_, h.decrement_eq⟩

end Tape

namespace World

/-- No instruction changes the number of cells. -/
theorem size_act (w : World) (inputEnd : EndOfInput) (instruction : Char) :
    (w.act inputEnd instruction).2.tape.cells.size = w.tape.cells.size := by
  unfold act
  split
  · rfl
  · rfl
  · exact w.tape.size_put _
  · exact w.tape.size_put _
  · split <;> rfl
  · split
    · -- what is received is stored in the current cell, or nothing is
      unfold received
      split
      · exact w.tape.size_put _
      · exact w.tape.size_put _
      · exact w.tape.size_put _
      · rfl
    · rfl
  · rfl

end World

namespace Run

variable {r start : Run} {o : Outcome} {program front back : Text} {d : Char}
  {setup : MachineSetup} {cells : Nat}

/-- No round changes the number of cells. -/
theorem Round.size_tape (h : Round program front d back r o) :
    o.run.machine.tape.cells.size = r.machine.tape.cells.size := by
  have hact := r.world.size_act r.machine.setup.inputEnd d
  cases h with
  | opened hd hready =>
      rw [machine_settle]
      rfl
  | stray hd hnil hready => rfl
  | closed hd hloops hskip hready =>
      rw [machine_settle]
      rfl
  | rewound hd hloops hskip hfront hbody hready => rfl
  | skipped hopen hclose hskip hready =>
      rw [machine_settle]
      rfl
  | acted hopen hclose hskip hacts hready =>
      rw [hacts] at hact
      rw [machine_settle]
      exact hact
  | failed hopen hclose hskip hacts hready =>
      rw [hacts] at hact
      exact hact

/-- A run over a program that is ready somewhere in it, on a tape of so many cells. -/
structure OnTape (program : Text) (setup : MachineSetup) (cells : Nat) (r : Run) : Prop
    extends r.Intact program setup where
  size_eq : r.machine.tape.cells.size = cells

/-- Each round stays on the tape, and meets no fault. -/
theorem OnTape.round_ok (h : r.OnTape program setup cells) :
    ∃ o, r.round = .ok o ∧ o.run.OnTape program setup cells := by
  obtain ⟨o, hround, hintact⟩ := h.toIntact.round_ok
  refine ⟨o, hround, hintact, ?_⟩
  obtain ⟨front, back, hready⟩ := h.ready
  rw [← h.size_eq]
  cases back with
  | nil =>
      obtain rfl := Except.ok.inj (hround.symm.trans hready.round_end)
      rw [machine_settle]
  | cons d back =>
      obtain ⟨o', hround', hcase⟩ := Run.round_ok hready
      obtain rfl := Except.ok.inj (hround.symm.trans hround')
      exact hcase.size_tape

theorem OnTape.runFor_ok (h : start.OnTape program setup cells) (rounds : Nat) :
    ∃ o, start.runFor rounds = .ok o ∧ o.run.OnTape program setup cells :=
  Run.runFor_run (fun _ => OnTape.round_ok) rounds start h

/-! ## Brackets -/

/-- Where a bracket is the next character of the program, the run takes it, and the offset behind it
    less one is the offset of the bracket. -/
def LocatesBrackets (program : Text) (r : Run) : Prop :=
  ∀ (front : Text) (d : Char) (back : Text), program = front ++ d :: back →
    r.cursor.offset = front.width → d = '[' ∨ d = ']' →
      ∃ cursor, r.cursor.take 1 = .ok ([d], cursor) ∧
        checkedDifference cursor.offset 1 = .ok front.width

/-- A ready run takes the bracket that it stands before, and knows where that is. -/
theorem Ready.locatesBrackets (h : r.Ready program front back) : r.LocatesBrackets program := by
  intro front' d back' hprogram hoffset hd
  -- there is one cut of the program at the offset
  have hcut : front = front' ∧ back = d :: back' := by
    refine Text.cut_unique (h.text_eq.symm.trans hprogram) ?_
    rw [← h.between.offset_eq, hoffset]
  obtain ⟨rfl, rfl⟩ := hcut
  have hone : d.utf8Size = 1 := by
    rcases hd with rfl | rfl <;> rfl
  exact ⟨_, h.between.take_char h.cursor_fits, h.offset_passed hone⟩

end Run

/-! ## Machines between runs -/

namespace Machine

variable {program : Text} {setup : MachineSetup} {m : Machine}

/-- A machine starts on its tape. -/
theorem onTape_start (htape : m.tape.Valid) (fits : m.program.width < wordLimit)
    (reader : Reader) (writer : Writer) :
    (m.start reader writer).OnTape m.program m.setup m.tape.cells.size :=
  ⟨Run.intact_start htape fits reader writer, rfl⟩

/-- No history of runs, whether they have failed or not, changes the program, the setup or the
    number of cells. -/
theorem Reached.intact (h : Reached program setup m) (fits : program.width < wordLimit)
    (hcells : setup.cells < wordLimit) :
    m.program = program ∧ m.setup = setup ∧ m.tape.cells.size = max setup.cells 1 := by
  induction h with
  | fresh => exact ⟨rfl, rfl, Array.size_replicate⟩
  | @again m reader writer rounds result r hm hrun ih =>
      obtain ⟨rfl, rfl, hsize⟩ := ih
      obtain ⟨-, htape⟩ := hm.valid fits hcells
      obtain ⟨o, hok, hon⟩ := (onTape_start htape fits reader writer).runFor_ok rounds
      obtain rfl := Except.ok.inj (hrun.symm.trans hok)
      obtain ⟨front, back, hready⟩ := hon.ready
      exact ⟨hready.program_eq, hon.setup_eq, hon.size_eq.trans hsize⟩

/-- A run sees the program, the setup and the tape of its machine, and nothing else. -/
theorem start_congr {m' : Machine} (hprogram : m'.program = m.program) (hsetup : m'.setup = m.setup)
    (hcells : m'.tape.cells = m.tape.cells) (hpointer : m'.tape.pointer = m.tape.pointer)
    (reader : Reader) (writer : Writer) : m'.start reader writer = m.start reader writer := by
  obtain ⟨program', setup', ⟨cells', pointer'⟩, loops'⟩ := m'
  obtain rfl : program' = m.program := hprogram
  obtain rfl : setup' = m.setup := hsetup
  obtain rfl : cells' = m.tape.cells := hcells
  obtain rfl : pointer' = m.tape.pointer := hpointer
  rfl

/-- **RUNS STAY ON THE TAPE**: whatever a machine has been through, between any two rounds of a run
    its tape has the cells it was set up with, at least one, and the pointer is one of them, so that
    no operation of the tape faults; a bracket that is read next is found at the offset behind it
    less one; and no round faults.  A run sees only the program, the setup, the cells and the
    pointer, so whatever is left open, the next run is that of a new machine on the same tape. -/
theorem runs_stay_on_the_tape (fits : program.width < wordLimit) (hcells : setup.cells < wordLimit)
    (hm : Reached program setup m) (reader : Reader) (writer : Writer) :
    (∀ rounds, ∃ o, (m.start reader writer).runFor rounds = .ok o ∧
      o.run.machine.tape.cells.size = max setup.cells 1 ∧
      o.run.machine.tape.pointer < o.run.machine.tape.cells.size ∧
      o.run.machine.tape.Usable ∧ o.run.LocatesBrackets program) ∧
    (∀ m' : Machine, m'.program = program → m'.setup = setup → m'.tape.cells = m.tape.cells →
      m'.tape.pointer = m.tape.pointer → ∀ rounds,
        (m'.start reader writer).runFor rounds = (m.start reader writer).runFor rounds) ∧
    ∀ rounds result r, (m.start reader writer).runFor rounds = .ok (.finished result r) →
      ∀ reader' writer' rounds', (r.machine.start reader' writer').runFor rounds' =
        (start ⟨program, setup, r.machine.tape, []⟩ reader' writer').runFor rounds' := by
  obtain ⟨rfl, rfl, hsize⟩ := hm.intact fits hcells
  obtain ⟨-, htape⟩ := hm.valid fits hcells
  refine ⟨fun rounds => ?_, ?_, ?_⟩
  · obtain ⟨o, hok, hon⟩ := (onTape_start htape fits reader writer).runFor_ok rounds
    obtain ⟨front, back, hready⟩ := hon.ready
    exact ⟨o, hok, hon.size_eq.trans hsize, hready.tape.pointer_lt, hready.tape.usable,
      hready.locatesBrackets⟩
  · intro m' hprogram hsetup hcells' hpointer rounds
    rw [start_congr hprogram hsetup hcells' hpointer]
  · intro rounds result r hrun reader' writer' rounds'
    -- the machine that the run leaves has another tape and other open loops
    obtain ⟨hprogram, hsetup, -⟩ := (hm.again hrun).intact fits hcells
    rw [start, start, hprogram, hsetup]

/-- A machine set up without cells has one; its first run fails in a loop, and its next run is that
    of a machine outside of all loops. -/
theorem runs_stay_on_the_tape_of_one_cell :
    Text.width ['+', '[', 'é', ','] < wordLimit ∧ 0 < wordLimit ∧
      ∃ m : Machine, m = ⟨['+', '[', 'é', ','], ⟨0, .zero⟩, ⟨#[1], 0⟩, [⟨1, false⟩]⟩ ∧
        Reached ['+', '[', 'é', ','] ⟨0, .zero⟩ m ∧
        (∃ o, (m.start (.ofBytes [5]) .accepting).runFor 3 = .ok o ∧
          o.run.machine.tape.cells.size = 1 ∧ o.run.machine.tape.pointer < 1 ∧
          o.run.LocatesBrackets ['+', '[', 'é', ',']) ∧
        ∀ rounds, (m.start (.ofBytes [5]) .accepting).runFor rounds =
          (start ⟨['+', '[', 'é', ','], ⟨0, .zero⟩, ⟨#[1], 0⟩, []⟩ (.ofBytes [5])
            .accepting).runFor rounds := by
  have fits : Text.width ['+', '[', 'é', ','] < wordLimit := by decide
  have hcells : (⟨0, .zero⟩ : MachineSetup).cells < wordLimit := by decide
  let m : Machine := ⟨['+', '[', 'é', ','], ⟨0, .zero⟩, ⟨#[1], 0⟩, [⟨1, false⟩]⟩
  have hfails : ((ofProgram ['+', '[', 'é', ','] ⟨0, .zero⟩).start ⟨[.failed .writeZero]⟩
      .accepting).runFor 4 = .ok (.finished (.error (.io .writeZero))
        ⟨m, ⟨['+', '[', 'é', ','], 5, none, Window.standard⟩, ⟨[]⟩, .accepting,
          #[.loopStart 1 false]⟩) := by
    decide +kernel
  have hm : Reached ['+', '[', 'é', ','] ⟨0, .zero⟩ m := Reached.fresh.again hfails
  obtain ⟨o, hok, hsize, hpointer, -, hlocates⟩ :=
    (runs_stay_on_the_tape fits hcells hm (.ofBytes [5]) .accepting).1 3
  have hone : o.run.machine.tape.cells.size = 1 := hsize
  rw [hone] at hpointer
  refine ⟨fits, by decide, m, rfl, hm, ⟨o, hok, hone, hpointer, hlocates⟩, ?_⟩
  exact (runs_stay_on_the_tape fits hcells .fresh ⟨[.failed .writeZero]⟩ .accepting).2.2 4 _ _
    hfails (.ofBytes [5]) .accepting

end Machine

end TextCursor
