import TextCursor.Proofs.Fates

/-! # Runs that go on

    What a run comes to says nothing of what it does on the way, and one that goes on
    for ever may write without end.  What has been written is never taken back and what
    has been read is never delivered again, so the worlds of a run are ordered,
    `World.Before`.  A run covers what it has, at some time, written and read
    (`Machine.Covers`), and it keeps up with another one if it covers whatever that one
    does (`Machine.KeepsUp`).  Two runs that keep up with each other write and read the
    same, for ever if they go on for ever.

    In as many steps as a run makes rounds, the jump machine comes at least as far.  So
    it is enough that one jump machine keeps up with the other one
    (`Machine.keepsUp_of_steps`). -/

namespace TextCursor

/-- What is left to read is an end of what there was. -/
theorem Reader.readFrom_suffix (script : List Delivery) : (readFrom script).2 <:+ script := by
  induction script with
  | nil => exact List.suffix_refl _
  | cons item script ih =>
      cases item with
      | byte b => exact List.suffix_cons _ _
      | ended => exact List.suffix_cons _ _
      | failed failure =>
          cases failure with
          | interrupted => exact ih.trans (List.suffix_cons _ _)
          | unexpectedEof => exact List.suffix_cons _ _
          | writeZero => exact List.suffix_cons _ _
          | other message => exact List.suffix_cons _ _

/-! ## The order of worlds -/

namespace World

/-- What is written in one world is a beginning of what is written in the other one, and what is
    left to read there is an end of what is left here. -/
structure Before (u v : World) : Prop where
  written : u.writer.accepted.toList <+: v.writer.accepted.toList
  left : v.reader.script <:+ u.reader.script

variable {u v w : World} {inputEnd : EndOfInput}

theorem Before.refl (w : World) : w.Before w :=
  ⟨List.prefix_refl _, List.suffix_refl _⟩

/-- What comes before what comes before a world comes before it. -/
theorem Before.trans (h : u.Before v) (h' : v.Before w) : u.Before w :=
  ⟨h.written.trans h'.written, h'.left.trans h.left⟩

theorem before_of_eq (hreader : u.reader = v.reader)
    (hwriter : u.writer.accepted = v.writer.accepted) : u.Before v where
  written := hwriter ▸ List.prefix_refl _
  left := hreader ▸ List.suffix_refl _

/-- Both worlds may have accepted some bytes before all others. -/
theorem Before.continuing (h : u.Before v) (bytes : Array UInt8) :
    (u.onWriter (.continuing bytes)).Before (v.onWriter (.continuing bytes)) := by
  refine ⟨?_, h.left⟩
  show (bytes ++ u.writer.accepted).toList <+: (bytes ++ v.writer.accepted).toList
  rw [Array.toList_append, Array.toList_append]
  exact (List.prefix_append_right_inj _).mpr h.written

/-- Instructions lead on. -/
theorem before_act (w : World) (inputEnd : EndOfInput) (c : Char) :
    w.Before (w.act inputEnd c).2 := by
  obtain ⟨tape, reader, writer⟩ := w
  have hwritten := writer.write_keeps_accepted tape.cell
  have hleft : reader.read.2.script <:+ reader.script := Reader.readFrom_suffix reader.script
  unfold act
  split
  · exact before_of_eq rfl rfl
  · exact before_of_eq rfl rfl
  · exact before_of_eq rfl rfl
  · exact before_of_eq rfl rfl
  · rcases hwrite : writer.write tape.cell with ⟨⟨⟩ | ⟨⟩, writer'⟩
    · rw [hwrite] at hwritten
      exact ⟨hwritten, List.suffix_refl _⟩
    · rw [hwrite] at hwritten
      exact ⟨hwritten, List.suffix_refl _⟩
  · rcases hread : reader.read with ⟨⟨⟩ | ⟨⟩, reader'⟩
    · rw [hread] at hleft
      exact ⟨List.prefix_refl _, hleft⟩
    · rw [hread] at hleft
      exact ⟨List.prefix_refl _, hleft⟩
  · exact .refl _

/-- A flush reads and writes nothing. -/
theorem before_flushed (w : World) : w.Before w.flushed.2 :=
  before_of_eq rfl w.writer.accepted_flush.symm

theorem flushed_before (w : World) : w.flushed.2.Before w :=
  before_of_eq rfl w.writer.accepted_flush

end World

/-! ## The order of rounds -/

namespace Run

variable {r start : Run} {o o' : Outcome} {program front back : Text} {setup : MachineSetup}
  {d : Char} {rounds later : Nat}

theorem before_settle (r : Run) : r.world.Before r.settle.run.world :=
  World.before_of_eq r.settle_leaves.2.1.symm r.settle_leaves.2.2.symm

/-- A round leads on. -/
theorem Round.before (h : Round program front d back r o) : r.world.Before o.run.world := by
  have hact := r.world.before_act r.machine.setup.inputEnd d
  cases h with
  | opened hd h => exact (r.opened front.width).before_settle
  | stray hd hnil h => exact .refl _
  | @closed innermost loops hd hloops hskip h => exact (r.closed loops).before_settle
  | rewound hd hloops hskip hfront hbody h => exact .refl _
  | skipped hopen hclose hskip h => exact (r.passed d).before_settle
  | @acted w hopen hclose hskip hacts h =>
      rw [hacts] at hact
      exact hact.trans (r.acted d w).before_settle
  | failed hopen hclose hskip hacts h =>
      rw [hacts] at hact
      exact hact

/-- Rounds lead on. -/
theorem Intact.before (h : start.Intact program setup) (hrun : start.runFor rounds = .ok o) :
    start.world.Before o.run.world := by
  have hround : ∀ s : Run, s.Intact program setup ∧ start.world.Before s.world →
      ∃ o, s.round = .ok o ∧ o.run.Intact program setup ∧ start.world.Before o.run.world := by
    rintro s ⟨hs, hbefore⟩
    obtain ⟨o, hok, hintact⟩ := hs.round_ok
    refine ⟨o, hok, hintact, hbefore.trans ?_⟩
    obtain ⟨front, back, hready⟩ := hs.ready
    cases back with
    | nil =>
        obtain rfl := Except.ok.inj (hok.symm.trans hready.round_end)
        exact s.before_settle
    | cons d back =>
        obtain ⟨o', hok', hcase⟩ := Run.round_ok hready
        obtain rfl := Except.ok.inj (hok.symm.trans hok')
        exact hcase.before
  obtain ⟨o', hok, -, hbefore⟩ := Run.runFor_run hround rounds start ⟨h, .refl _⟩
  obtain rfl := Except.ok.inj (hrun.symm.trans hok)
  exact hbefore

/-- More rounds lead further. -/
theorem Intact.before_later (h : start.Intact program setup) (hrun : start.runFor rounds = .ok o)
    (hrun' : start.runFor later = .ok o') (hle : rounds ≤ later) :
    o.run.world.Before o'.run.world := by
  have hmore := runFor_add hrun (later - rounds)
  rw [Nat.add_sub_cancel' hle, hrun'] at hmore
  cases o with
  | finished result r =>
      obtain rfl := Except.ok.inj hmore
      exact .refl _
  | running r => exact (h.of_runFor hrun).before hmore.symm

end Run

/-- Where a run and a jump machine agree, they have written and read the same. -/
theorem Agrees.before {program : Text} {setup : MachineSetup} {o : Outcome} {p : JumpProgress}
    (h : Agrees program setup o p) : o.run.world.Before p.world ∧ p.world.Before o.run.world := by
  cases h with
  | running h => exact ⟨.refl _, .refl _⟩
  | @ahead r w hworld =>
      show r.world.Before w ∧ w.Before r.world
      rw [hworld]
      exact ⟨w.flushed_before, w.before_flushed⟩
  | @finished _ r w hworld =>
      show r.world.Before w ∧ w.Before r.world
      rw [hworld]
      exact ⟨.refl _, .refl _⟩

/-! ## Runs that keep up -/

namespace Machine

variable {m m' : Machine} {reader reader' : Reader} {writer writer' : Writer}

/-- Whatever a run of the second machine has written and read after some rounds, the run of the
    first machine has written and read after some rounds too. -/
def KeepsUp (m m' : Machine) (reader : Reader) (writer : Writer) : Prop :=
  ∀ rounds o, (m'.start reader writer).runFor rounds = .ok o →
    ∃ rounds' o', (m.start reader writer).runFor rounds' = .ok o' ∧
      o.run.world.Before o'.run.world

/-- A run covers a world if after some rounds it has written and read as much. -/
def Covers (m : Machine) (reader : Reader) (writer : Writer) (w : World) : Prop :=
  ∃ rounds o, (m.start reader writer).runFor rounds = .ok o ∧ w.Before o.run.world

/-- To keep up is to cover what the other run covers. -/
theorem keepsUp_iff_covers : m.KeepsUp m' reader writer ↔
    ∀ w, m'.Covers reader writer w → m.Covers reader writer w := by
  constructor
  · rintro h w ⟨rounds, o, hrun, hbefore⟩
    obtain ⟨rounds', o', hrun', hbefore'⟩ := h rounds o hrun
    exact ⟨rounds', o', hrun', hbefore.trans hbefore'⟩
  · intro h rounds o hrun
    exact h o.run.world ⟨rounds, o, hrun, .refl _⟩

/-- Runs that cover the same keep up with each other. -/
theorem keepsUp_of_covers_iff (h : ∀ w, m.Covers reader writer w ↔ m'.Covers reader writer w) :
    m.KeepsUp m' reader writer ∧ m'.KeepsUp m reader writer :=
  ⟨keepsUp_iff_covers.mpr fun w => (h w).mpr, keepsUp_iff_covers.mpr fun w => (h w).mp⟩

/-- What a run covers does not depend on the loops that an earlier run has left open. -/
theorem covers_congr {w : World} (hprogram : m.program = m'.program) (hsetup : m.setup = m'.setup)
    (htape : m.tape = m'.tape) : m.Covers reader writer w ↔ m'.Covers reader writer w := by
  have hstart : m.start reader writer = m'.start reader writer := by
    rw [start, start, hprogram, hsetup, htape]
  rw [Covers, Covers, hstart]

/-- The jump machine of a machine after some steps. -/
def jumped (m : Machine) (reader : Reader) (writer : Writer) (steps : Nat) : JumpProgress :=
  (JumpMachine.ofProgram m.program m.setup.inputEnd).next^[steps]
    (.running ⟨0, ⟨m.tape, reader, writer⟩⟩)

/-- A run and the jump machine start in agreement. -/
theorem agrees_start (htape : m.tape.Valid) (fits : m.program.width < wordLimit) (reader : Reader)
    (writer : Writer) : Agrees m.program m.setup (.running (m.start reader writer))
      (.running ⟨0, ⟨m.tape, reader, writer⟩⟩) :=
  .running (Run.executing_start fits htape reader writer)

/-- In as many steps as a run has made rounds the jump machine has come as far. -/
theorem before_jumped (htape : m.tape.Valid) (fits : m.program.width < wordLimit) {rounds : Nat}
    {o : Outcome} (hrun : (m.start reader writer).runFor rounds = .ok o) :
    o.run.world.Before (m.jumped reader writer rounds).world := by
  have hintact := Run.intact_start htape fits reader writer
  obtain ⟨rounds', o', hrun', hagrees, hcount⟩ :=
    (agrees_start htape fits reader writer).simulates rounds
  refine World.Before.trans ?_ hagrees.before.1
  rcases Nat.le_total rounds rounds' with hle | hle
  · exact hintact.before_later hrun hrun' hle
  · cases o' with
    | running r =>
        obtain rfl : rounds = rounds' := Nat.le_antisymm (hcount r rfl) hle
        obtain rfl := Except.ok.inj (hrun.symm.trans hrun')
        exact .refl _
    | finished result r =>
        rw [Outcome.eq_of_runFor_finished (o := .running _) hrun' hrun hle]
        exact .refl _

/-- In some number of rounds a run comes as far as the jump machine. -/
theorem exists_jumped_before (htape : m.tape.Valid) (fits : m.program.width < wordLimit)
    (reader : Reader) (writer : Writer) (steps : Nat) :
    ∃ rounds o, (m.start reader writer).runFor rounds = .ok o ∧
      (m.jumped reader writer steps).world.Before o.run.world := by
  obtain ⟨rounds, o, hrun, hagrees, -⟩ := (agrees_start htape fits reader writer).simulates steps
  exact ⟨rounds, o, hrun, hagrees.before.2⟩

/-- A run keeps up with another one if its jump machine does. -/
theorem keepsUp_of_steps (htape : m.tape.Valid) (fits : m.program.width < wordLimit)
    (htape' : m'.tape.Valid) (fits' : m'.program.width < wordLimit)
    (h : ∀ steps', ∃ steps,
      (m'.jumped reader writer steps').world.Before (m.jumped reader writer steps).world) :
    m.KeepsUp m' reader writer := by
  intro rounds o hrun
  obtain ⟨steps, hsteps⟩ := h rounds
  obtain ⟨rounds', o', hrun', hbefore⟩ := exists_jumped_before htape fits reader writer steps
  exact ⟨rounds', o', hrun', ((before_jumped htape' fits' hrun).trans hsteps).trans hbefore⟩

end Machine

end TextCursor
