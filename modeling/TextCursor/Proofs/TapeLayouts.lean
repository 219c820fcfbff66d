import TextCursor.Proofs.IoFailures
import TextCursor.Proofs.TapeSafety

/-! # Runs on tapes laid out otherwise

    A program sees of its tape the current byte only.  So it does the same on a tape
    that is laid out otherwise, as long as the current byte is the same there and stays
    so when it is changed and when the pointer is moved.  A `Tape.Layout` is a function
    of tapes for which that is so, perhaps not of all moves: some may lead to
    the same byte only where they stay inside of the tape.

    One round on the other tape is then the round, laid out otherwise
    (`Run.OnTape.round_retaped`), and so is any number of rounds of a run in which no
    other moves are executed (`Run.OnTape.runFor_retaped`).  This says more than that
    both runs come to the same: they are at the same place in every round, with the same
    loops, reports, input and output. -/

namespace TextCursor

/-! ## Layouts -/

/-- A valid tape of so many cells. -/
structure Tape.Sized (cells : Nat) (t : Tape) : Prop extends t.Valid where
  size_eq : t.cells.size = cells

/-- Tapes of so many cells laid out otherwise.  An instruction does the same on both, if it is one
    that may be executed there. -/
structure Tape.Layout (cells : Nat) (may : Char → Tape → Prop) (move : Tape → Tape) : Prop where
  valid : ∀ t, t.Sized cells → (move t).Valid
  cell_eq : ∀ t, t.Sized cells → (move t).cell = t.cell
  put_eq : ∀ t b, t.Sized cells → (move t).put b = move (t.put b)
  right_eq : ∀ t, t.Sized cells → may '>' t → (move t).right = move t.right
  left_eq : ∀ t, t.Sized cells → may '<' t → (move t).left = move t.left

namespace World

/-- The world with its tape laid out otherwise. -/
def onTape (move : Tape → Tape) (w : World) : World :=
  { w with tape := move w.tape }

variable {cells : Nat} {may : Char → Tape → Prop} {move : Tape → Tape} {w : World} {c : Char}

/-- A read answers into the same cell, however the tape is laid out. -/
theorem received_layout (h : Tape.Layout cells may move) {t : Tape} (ht : t.Sized cells)
    (inputEnd : EndOfInput) (answer : Option UInt8) :
    received inputEnd answer (move t) = move (received inputEnd answer t) := by
  unfold received
  split
  · exact h.put_eq t _ ht
  · exact h.put_eq t _ ht
  · exact h.put_eq t _ ht
  · rfl

/-- An instruction that may be executed does the same in the other world. -/
theorem act_onTape (h : Tape.Layout cells may move) (hw : w.tape.Sized cells)
    (hmay : may c w.tape) (inputEnd : EndOfInput) :
    (w.onTape move).act inputEnd c
      = ((w.act inputEnd c).1, (w.act inputEnd c).2.onTape move) := by
  obtain ⟨tape, reader, writer⟩ := w
  have hcell : (move tape).cell = tape.cell := h.cell_eq tape hw
  unfold act
  split
  · exact congrArg (fun t => (none, World.mk t reader writer)) (h.right_eq tape hw hmay)
  · exact congrArg (fun t => (none, World.mk t reader writer)) (h.left_eq tape hw hmay)
  · show (none, World.mk ((move tape).put ((move tape).cell + 1)) reader writer) = _
    rw [hcell, h.put_eq tape _ hw]
    rfl
  · show (none, World.mk ((move tape).put ((move tape).cell - 1)) reader writer) = _
    rw [hcell, h.put_eq tape _ hw]
    rfl
  · simp only [onTape, hcell]
    rcases writer.write tape.cell with ⟨⟨⟩ | ⟨⟩, writer'⟩ <;> rfl
  · simp only [onTape]
    rcases reader.read with ⟨failure | answer, reader'⟩
    · rfl
    · simp only [received_layout h hw]
  · rfl

end World

/-! ## Runs -/

namespace Run

/-- The run of a machine with another setup, its tape laid out otherwise. -/
def retaped (setup : MachineSetup) (move : Tape → Tape) (r : Run) : Run :=
  { r with machine := { r.machine with setup := setup, tape := move r.machine.tape } }

end Run

/-- The outcome for a machine with another setup, its tape laid out otherwise. -/
def Outcome.retaped (setup : MachineSetup) (move : Tape → Tape) : Outcome → Outcome
  | .running r => .running (r.retaped setup move)
  | .finished result r => .finished result (r.retaped setup move)

namespace Run

variable {cells : Nat} {may : Char → Tape → Prop} {move : Tape → Tape} {setup setup' : MachineSetup}
  {program front back : Text} {d : Char} {r start : Run} {rounds : Nat} {o : Outcome}

/-- At the end of the program, too, both runs do the same. -/
theorem settle_retaped (setup : MachineSetup) (move : Tape → Tape) (r : Run) :
    (r.retaped setup move).settle = r.settle.retaped setup move := by
  have hended : (r.retaped setup move).ended = r.ended.retaped setup move := by
    have hloops : (r.retaped setup move).machine.loops = r.machine.loops := rfl
    rw [ended, ended, hloops]
    cases r.machine.loops.isEmpty <;> rfl
  have hcursor : (r.retaped setup move).cursor = r.cursor := rfl
  rw [settle, settle, hended, hcursor]
  cases r.cursor.atEnd <;> rfl

/-- The tape of a run has its number of cells. -/
theorem OnTape.sized (h : r.OnTape program setup cells) : r.machine.tape.Sized cells := by
  obtain ⟨front, back, hready⟩ := h.ready
  exact ⟨hready.tape, h.size_eq⟩

/-- Laying out the tape otherwise keeps a run ready. -/
theorem Ready.retaped (h : r.Ready program front back) (hvalid : (move r.machine.tape).Valid) :
    (r.retaped setup move).Ready program front back :=
  ⟨h.program_eq, h.text_eq, h.between, h.fits, hvalid, h.starts⟩

/-- A loop is opened on the other tape as it is opened on the tape. -/
theorem Ready.round_retaped_open (h : r.Ready program front ('[' :: back))
    (hvalid : (move r.machine.tape).Valid)
    (hcell : (move r.machine.tape).cell = r.machine.tape.cell) :
    (r.retaped setup' move).round = r.round.map (.retaped setup' move) := by
  have h' : (r.retaped setup' move).Ready program front ('[' :: back) := h.retaped hvalid
  have hskips : (r.retaped setup' move).skips = r.skips := by
    show (r.machine.isSkipping || (move r.machine.tape).cell == 0) = _
    rw [hcell]
    rfl
  have hopened : (r.retaped setup' move).opened front.width
      = (r.opened front.width).retaped setup' move := by
    rw [Run.opened, hskips]
    rfl
  rw [h.round_open, h'.round_open, hopened, settle_retaped]
  rfl

/-- A `]` does not look at the tape. -/
theorem Ready.round_retaped_close (h : r.Ready program front (']' :: back))
    (hvalid : (move r.machine.tape).Valid) :
    (r.retaped setup' move).round = r.round.map (.retaped setup' move) := by
  have h' : (r.retaped setup' move).Ready program front (']' :: back) := h.retaped hvalid
  cases hloops : r.machine.loops with
  | nil =>
      have hnil := h.openings_eq_nil hloops
      rw [h.round_stray hnil, h'.round_stray hnil]
      rfl
  | cons innermost loops =>
      have hloops' : (r.retaped setup' move).machine.loops = innermost :: loops := hloops
      cases hskip : innermost.skip with
      | true =>
          rw [h.round_close hloops hskip, h'.round_close hloops' hskip]
          exact congrArg Except.ok (settle_retaped setup' move (r.closed loops))
      | false =>
          obtain ⟨before, body, rfl, hbody, hstart, houter⟩ := h.innermost_start hloops
          rw [h.round_rewind hloops hskip hstart houter,
            h'.round_rewind hloops' hskip hstart houter]
          rfl

/-- An instruction that does the same in the other world leads to the same round, whether it is
    executed or skipped. -/
theorem Ready.round_retaped_plain (h : r.Ready program front (d :: back)) (hopen : d ≠ '[')
    (hclose : d ≠ ']') (hvalid : (move r.machine.tape).Valid)
    (hact : r.executes d = true → (r.world.onTape move).act setup'.inputEnd d
      = ((r.world.act r.machine.setup.inputEnd d).1,
        (r.world.act r.machine.setup.inputEnd d).2.onTape move)) :
    (r.retaped setup' move).round = r.round.map (.retaped setup' move) := by
  have h' : (r.retaped setup' move).Ready program front (d :: back) := h.retaped hvalid
  cases hskip : r.machine.isSkipping with
  | true =>
      rw [h.round_skip hopen hclose hskip, h'.round_skip hopen hclose hskip]
      exact congrArg Except.ok (settle_retaped setup' move (r.passed d))
  | false =>
      have hexecutes : r.executes d = true := by
        rw [h.executes_eq, hskip, beq_self_eq_true]
        rfl
      replace hact := hact hexecutes
      rcases hanswer : r.world.act r.machine.setup.inputEnd d with ⟨_ | failure, w⟩
      · rw [hanswer] at hact
        rw [h.round_act hopen hclose hskip hanswer,
          h'.round_act (w := w.onTape move) hopen hclose hskip hact]
        exact congrArg Except.ok (settle_retaped setup' move (r.acted d w))
      · rw [hanswer] at hact
        rw [h.round_fail hopen hclose hskip hanswer,
          h'.round_fail (w := w.onTape move) hopen hclose hskip hact]
        rfl

/-- **A round on the other tape** is the round, laid out otherwise. -/
theorem OnTape.round_retaped (hlayout : Tape.Layout cells may move)
    (h : r.OnTape program setup cells) (hinput : setup'.inputEnd = setup.inputEnd)
    (hmay : ∀ c, r.executes c = true → may c r.machine.tape) :
    (r.retaped setup' move).round = r.round.map (.retaped setup' move) := by
  have hsized := h.sized
  have hvalid := hlayout.valid _ hsized
  obtain ⟨front, back, hready⟩ := h.ready
  cases back with
  | nil =>
      rw [hready.round_end, (hready.retaped hvalid).round_end, settle_retaped]
      rfl
  | cons d back =>
      by_cases hopen : d = '['
      · subst hopen
        exact hready.round_retaped_open hvalid (hlayout.cell_eq _ hsized)
      by_cases hclose : d = ']'
      · subst hclose
        exact hready.round_retaped_close hvalid
      · refine hready.round_retaped_plain hopen hclose hvalid fun hexecutes => ?_
        rw [hinput, h.setup_eq]
        exact World.act_onTape hlayout hsized (hmay d hexecutes) setup.inputEnd

/-- **A run on the other tape** is the run, laid out otherwise, if it executes only what it may. -/
theorem OnTape.runFor_retaped (hlayout : Tape.Layout cells may move)
    (h : start.OnTape program setup cells) (hinput : setup'.inputEnd = setup.inputEnd)
    (hmay : ∀ rounds r c, start.runFor rounds = .ok (.running r) → r.executes c = true →
      may c r.machine.tape) (rounds : Nat) :
    (start.retaped setup' move).runFor rounds
      = (start.runFor rounds).map (.retaped setup' move) := by
  induction rounds with
  | zero => rfl
  | succ rounds ih =>
      obtain ⟨o, hrun, hkept⟩ := h.runFor_ok rounds
      rw [hrun] at ih
      cases o with
      | finished result r =>
          rw [runFor_add hrun 1, runFor_add ih 1]
          rfl
      | running r =>
          obtain ⟨o, hround, -⟩ := OnTape.round_ok hkept
          have hround' := OnTape.round_retaped hlayout hkept hinput
            fun c => hmay rounds r c hrun
          rw [hround] at hround'
          rw [runFor_next hrun hround, runFor_next ih hround']
          rfl

end Run

/-! ## What runs come to -/

namespace Machine

/-- The runs of two machines of which the second one has its tape laid out otherwise: they are the
    same in every round, and come to the same. -/
structure RunsAlike (move : Tape → Tape) (m m' : Machine) (reader : Reader) (writer : Writer) :
    Prop where
  comes_to_one : ∃! fate, m.Meets reader writer fate
  round_by_round : ∀ rounds, (m'.start reader writer).runFor rounds
    = ((m.start reader writer).runFor rounds).map (.retaped m'.setup move)
  meets_iff : ∀ fate, m'.Meets reader writer fate ↔
    ∃ fate', m.Meets reader writer fate' ∧ fate = fate'.map id (.onTape move)

variable {cells : Nat} {may : Char → Tape → Prop} {move : Tape → Tape} {m m' : Machine}
  {reader : Reader} {writer : Writer}

/-- Runs that are the same in every round come to the same. -/
theorem meets_of_round_by_round (htape : m.tape.Valid) (fits : m.program.width < wordLimit)
    (htape' : m'.tape.Valid) (fits' : m'.program.width < wordLimit)
    (h : ∀ rounds, (m'.start reader writer).runFor rounds
      = ((m.start reader writer).runFor rounds).map (.retaped m'.setup move)) (fate : Fate) :
    m'.Meets reader writer fate ↔
      ∃ fate', m.Meets reader writer fate' ∧ fate = fate'.map id (.onTape move) := by
  refine meets_map_iff m m' htape fits htape' fits' ?_ fate
  intro result w
  constructor
  · rintro ⟨rounds, r, hrun, rfl⟩
    rw [h] at hrun
    obtain ⟨o, hok, -⟩ := (Run.intact_start htape fits reader writer).runFor_ok rounds
    rw [hok] at hrun
    cases o with
    | running r => exact nomatch Except.ok.inj hrun
    | finished result' r' =>
        obtain ⟨rfl, rfl⟩ := Outcome.finished.inj (Except.ok.inj hrun)
        exact ⟨_, _, ⟨rounds, r', hok, rfl⟩, rfl, rfl⟩
  · rintro ⟨result', w', ⟨rounds, r, hrun, rfl⟩, rfl, rfl⟩
    refine ⟨rounds, r.retaped m'.setup move, ?_, rfl⟩
    rw [h, hrun]
    rfl

/-- A run that executes only what it may does so on the other tape too. -/
theorem runsAlike_of_layout (hlayout : Tape.Layout cells may move) (htape : m.tape.Sized cells)
    (fits : m.program.width < wordLimit) (hprogram : m'.program = m.program)
    (hinput : m'.setup.inputEnd = m.setup.inputEnd) (htape' : m'.tape = move m.tape)
    (hmay : ∀ rounds r c, (m.start reader writer).runFor rounds = .ok (.running r) →
      r.executes c = true → may c r.machine.tape) : RunsAlike move m m' reader writer := by
  have hstart : m'.start reader writer = (m.start reader writer).retaped m'.setup move := by
    obtain ⟨program, setup, tape, loops⟩ := m
    obtain ⟨program', setup', tape', loops'⟩ := m'
    obtain rfl : program' = program := hprogram
    obtain rfl : tape' = move tape := htape'
    rfl
  have honTape : (m.start reader writer).OnTape m.program m.setup cells :=
    ⟨Run.intact_start htape.toValid fits reader writer, htape.size_eq⟩
  have hrounds : ∀ rounds, (m'.start reader writer).runFor rounds
      = ((m.start reader writer).runFor rounds).map (.retaped m'.setup move) := by
    intro rounds
    rw [hstart]
    exact Run.OnTape.runFor_retaped hlayout honTape hinput hmay rounds
  have hvalid : m'.tape.Valid := htape' ▸ hlayout.valid m.tape htape
  have fits' : m'.program.width < wordLimit := hprogram ▸ fits
  exact ⟨existsUnique_meets htape.toValid fits reader writer, hrounds,
    meets_of_round_by_round htape.toValid fits hvalid fits' hrounds⟩

end Machine

end TextCursor
