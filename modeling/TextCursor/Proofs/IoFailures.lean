import TextCursor.Proofs.OngoingRuns

/-! # What failures of input and output leave behind

    A failure ends a run at the instruction that meets it, and what was done before
    stays done.  To say what that is, a run is compared with one whose output does
    not fail.  The two make the same rounds as long as every byte is accepted,
    because a round looks at its writer in one case only: when a `.` is executed
    (`Run.Turn`).

    `accepting_alongside` follows the two up to the byte that is refused.  The flush
    comes last, so a run whose flush fails has made all rounds of one whose flush
    does not (`Run.runFor_alike`). -/

namespace TextCursor

/-! ## Failing scripts -/

/-- A writer with such a script refuses its next byte with a failure: it meets an error that is no
    interruption, or accepts nothing. -/
inductive Writer.Refuses : List Acceptance → IoFailure → Prop
  | nothing {script : List Acceptance} : Refuses (.refused :: script) .writeZero
  | error {script : List Acceptance} {failure : IoFailure} (h : failure ≠ .interrupted) :
      Refuses (.failed failure :: script) failure
  | again {script : List Acceptance} {failure : IoFailure} (h : Refuses script failure) :
      Refuses (.failed .interrupted :: script) failure

/-- A reader with such a script fails to read: it meets an error that is neither an interruption
    nor the end of the input. -/
inductive Reader.Fails : List Delivery → IoFailure → Prop
  | error {script : List Delivery} {failure : IoFailure} (h : failure ≠ .interrupted)
      (h' : failure ≠ .unexpectedEof) : Fails (.failed failure :: script) failure
  | again {script : List Delivery} {failure : IoFailure} (h : Fails script failure) :
      Fails (.failed .interrupted :: script) failure

namespace Writer

variable {w : Writer} {b : UInt8} {failure : IoFailure}

/-- A byte that is offered to such a script is refused. -/
theorem offerTo_of_refuses {script : List Acceptance} (h : Refuses script failure) :
    ∃ rest, offerTo script = (.error failure, rest) := by
  induction h with
  | @nothing script => exact ⟨script, rfl⟩
  | @error script failure h =>
      refine ⟨script, ?_⟩
      cases failure with
      | interrupted => exact absurd rfl h
      | unexpectedEof => rfl
      | writeZero => rfl
      | other message => rfl
  | again _ ih => exact ih

/-- A byte that is refused leaves what was accepted. -/
theorem write_of_refuses (h : Refuses w.script failure) :
    ∃ rest, w.write b = (.error failure, { w with script := rest }) := by
  obtain ⟨script, flushFailure, accepted, flushes⟩ := w
  obtain ⟨rest, hoffer⟩ := offerTo_of_refuses h
  refine ⟨rest, ?_⟩
  rw [write, hoffer]

/-- A byte that is accepted comes behind those before. -/
theorem accepted_write (h : (w.write b).1 = .ok ()) :
    (w.write b).2.accepted = w.accepted.push b := by
  obtain ⟨script, flushFailure, accepted, flushes⟩ := w
  simp only [write] at h ⊢
  rcases hoffer : offerTo script with ⟨⟨⟩ | ⟨⟩, rest⟩
  · rw [hoffer] at h
    cases h
  · rfl

end Writer

namespace Reader

variable {r : Reader} {failure : IoFailure}

/-- A read from such a script fails. -/
theorem readFrom_of_fails {script : List Delivery} (h : Fails script failure) :
    ∃ rest, readFrom script = (.error failure, rest) := by
  induction h with
  | @error script failure h h' =>
      refine ⟨script, ?_⟩
      cases failure with
      | interrupted => exact absurd rfl h
      | unexpectedEof => exact absurd rfl h'
      | writeZero => rfl
      | other message => rfl
  | again _ ih => exact ih

theorem read_of_fails (h : Fails r.script failure) : ∃ rest, r.read = (.error failure, ⟨rest⟩) := by
  obtain ⟨rest, hread⟩ := readFrom_of_fails h
  refine ⟨rest, ?_⟩
  rw [read, hread]

end Reader

namespace Run

variable {r r' start : Run} {program front back : Text} {d : Char} {setup : MachineSetup}
  {rounds : Nat} {change : Writer → Writer} {failure : Option MachineError}

/-! ## Executed characters -/

/-- Whether the next round executes a character: the cursor stands before it, and the run does not
    skip. -/
def executes (r : Run) (c : Char) : Bool :=
  match r.cursor.rest with
  | .ok (d :: _) => d == c && !r.machine.isSkipping
  | _ => false

/-- A run that does not skip executes the character before it. -/
theorem Ready.executes_eq (h : r.Ready program front (d :: back)) (c : Char) :
    r.executes c = (d == c && !r.machine.isSkipping) := by
  rw [executes, h.between.rest_eq]

/-- Whether the round behind so many others executes a character. -/
def executesAt (start : Run) (c : Char) (rounds : Nat) : Bool :=
  match start.runFor rounds with
  | .ok (.running r) => r.executes c
  | _ => false

/-- How often a character is executed in so many rounds. -/
def executions (start : Run) (c : Char) (rounds : Nat) : Nat :=
  (List.range rounds).countP (start.executesAt c)

/-- Executions are counted round by round. -/
theorem executions_succ (start : Run) (c : Char) (rounds : Nat) :
    start.executions c (rounds + 1)
      = start.executions c rounds + if start.executesAt c rounds then 1 else 0 := by
  rw [executions, List.range_succ, List.countP_append, List.countP_singleton]
  rfl

/-! ## The same rounds with another output -/

/-- The run with its writer changed. -/
def onWriter (change : Writer → Writer) (r : Run) : Run :=
  { r with writer := change r.writer }

/-- How a round ends when its character has been executed. -/
def conclude (failure : Option MachineError) (r : Run) : Outcome :=
  match failure with
  | some error => .finished (.error error) r
  | none => r.settle

/-- What one round does before it is concluded, as far as its writer is concerned: it is written to
    if a `.` is executed, and otherwise it makes no difference. -/
structure Turn (r : Run) (failure : Option MachineError) (r' : Run) : Prop where
  round_eq : r.round = .ok (r'.conclude failure)
  writer_eq : r'.writer
    = if r.executes '.' then (r.writer.write r.machine.tape.cell).2 else r.writer
  accepts : failure = none → r.executes '.' = true →
    (r.writer.write r.machine.tape.cell).1 = .ok ()
  alike : ∀ change : Writer → Writer,
    (r.executes '.' = true → (change r.writer).write r.machine.tape.cell
      = ((r.writer.write r.machine.tape.cell).1, change (r.writer.write r.machine.tape.cell).2)) →
    (r.onWriter change).round = .ok ((r'.onWriter change).conclude failure)

/-- The writer has no part in whether a run is ready. -/
theorem Ready.onWriter (h : r.Ready program front back) (change : Writer → Writer) :
    (r.onWriter change).Ready program front back :=
  ⟨h.program_eq, h.text_eq, h.between, h.fits, h.tape, h.starts⟩

/-- A round that executes no `.` leaves its writer. -/
theorem turn_of_silent (hsilent : r.executes '.' = false)
    (hround : r.round = .ok (r'.conclude failure)) (hwriter : r'.writer = r.writer)
    (halike : ∀ change, (r.onWriter change).round = .ok ((r'.onWriter change).conclude failure)) :
    Turn r failure r' where
  round_eq := hround
  writer_eq := by
    rw [hsilent]
    exact hwriter
  accepts := by
    intro _ hexecutes
    exact nomatch hsilent.symm.trans hexecutes
  alike := fun change _ => halike change

/-- An instruction does the same with another writer, if it does not write or what it writes meets
    the same answer. -/
theorem Ready.turn_of_act (h : r.Ready program front (d :: back)) (hopen : d ≠ '[')
    (hclose : d ≠ ']') (hskip : r.machine.isSkipping = false) {failure : Option IoFailure}
    {w : World} (hact : r.world.act r.machine.setup.inputEnd d = (failure, w)) :
    Turn r (failure.map .io) (r.acted d w) := by
  have hexecutes : r.executes '.' = (d == '.') := by
    rw [h.executes_eq, hskip, Bool.not_false, Bool.and_true]
  have hround : ∀ {s : Run} {u : World}, s.Ready program front (d :: back) →
      s.machine.isSkipping = false → s.world.act s.machine.setup.inputEnd d = (failure, u) →
      s.round = .ok ((s.acted d u).conclude (failure.map .io)) := by
    intro s u hs hskip' hact'
    cases failure with
    | none => exact hs.round_act hopen hclose hskip' hact'
    | some failure => exact hs.round_fail hopen hclose hskip' hact'
  refine ⟨hround h hskip hact, ?_, ?_, ?_⟩
  · have hwriter := r.world.writer_act r.machine.setup.inputEnd d
    rw [hact] at hwriter
    rw [hexecutes]
    simp only [beq_iff_eq]
    exact hwriter
  · -- only a `.` asks the writer, and it goes on if the writer accepts
    intro hnone hdot
    obtain rfl : d = '.' := by
      rw [hexecutes] at hdot
      exact eq_of_beq hdot
    have haccepts : r.world.act r.machine.setup.inputEnd '.' = (none, w) := by
      rw [hact, Option.map_eq_none_iff.mp hnone]
    simp only [World.act] at haccepts
    show (r.world.writer.write r.world.tape.cell).1 = .ok ()
    rcases hwrite : r.world.writer.write r.world.tape.cell with ⟨failure' | ⟨⟩, writer⟩
    · rw [hwrite] at haccepts
      exact nomatch haccepts
    · rfl
  · intro change hwrite
    refine hround (u := w.onWriter change) (h.onWriter change) hskip ?_
    have hsame : (r.world.onWriter change).act r.machine.setup.inputEnd d = _ :=
      World.act_onWriter fun hd => hwrite (by rw [hexecutes, hd]; rfl)
    rw [hact] at hsame
    exact hsame

/-- **Every round takes a turn.** -/
theorem Ready.exists_turn (h : r.Ready program front back) : ∃ failure r', Turn r failure r' := by
  cases back with
  | nil =>
      have hsilent : r.executes '.' = false := by
        rw [executes, h.between.rest_eq]
      exact ⟨none, r, turn_of_silent hsilent h.round_end rfl fun change =>
        (h.onWriter change).round_end⟩
  | cons d back =>
      have hexecutes := h.executes_eq '.'
      by_cases hopen : d = '['
      · subst hopen
        exact ⟨none, r.opened front.width, turn_of_silent hexecutes h.round_open rfl fun change =>
          (h.onWriter change).round_open⟩
      by_cases hclose : d = ']'
      · subst hclose
        cases hloops : r.machine.loops with
        | nil =>
            have hnil := h.openings_eq_nil hloops
            exact ⟨some _, _, turn_of_silent hexecutes (h.round_stray hnil) rfl fun change =>
              (h.onWriter change).round_stray hnil⟩
        | cons innermost loops =>
            cases hskip : innermost.skip with
            | true =>
                exact ⟨none, r.closed loops, turn_of_silent hexecutes (h.round_close hloops hskip)
                  rfl fun change => (h.onWriter change).round_close hloops hskip⟩
            | false =>
                obtain ⟨before, body, rfl, hbody, hstart, houter⟩ := h.innermost_start hloops
                -- back at the `[` there is more to read, so the run goes on
                have hsettle := settle_running (h.rewound houter).between
                refine ⟨none, r.rewound before.width loops, turn_of_silent hexecutes ?_ rfl ?_⟩
                · rw [h.round_rewind hloops hskip hstart houter]
                  exact congrArg Except.ok hsettle.symm
                · intro change
                  have hsettle' := settle_running ((h.onWriter change).rewound houter).between
                  rw [(h.onWriter change).round_rewind hloops hskip hstart houter]
                  exact congrArg Except.ok hsettle'.symm
      · cases hskip : r.machine.isSkipping with
        | true =>
            have hsilent : r.executes '.' = false := by
              rw [hexecutes, hskip, Bool.not_true, Bool.and_false]
            exact ⟨none, r.passed d, turn_of_silent hsilent (h.round_skip hopen hclose hskip) rfl
              fun change => (h.onWriter change).round_skip hopen hclose hskip⟩
        | false =>
            rcases hact : r.world.act r.machine.setup.inputEnd d with ⟨failure, w⟩
            exact ⟨_, _, h.turn_of_act hopen hclose hskip hact⟩

/-- Each round of an intact run is a turn. -/
theorem Intact.exists_turn (h : r.Intact program setup) : ∃ failure r', Turn r failure r' := by
  obtain ⟨⟨front, back, hready⟩, -⟩ := h
  exact hready.exists_turn

/-- A round that does not fail has accepted a byte if it has executed a `.`. -/
theorem Turn.size_accepted (h : Turn r none r') :
    r'.writer.accepted.size = r.writer.accepted.size + if r.executes '.' then 1 else 0 := by
  rw [h.writer_eq]
  cases hdot : r.executes '.' with
  | true => rw [if_pos rfl, if_pos rfl, Writer.accepted_write (h.accepts rfl hdot), Array.size_push]
  | false => rfl

/-! ## Runs next to each other -/

/-- Outcomes of two runs of which the second has its writer changed.  The property is one that the
    first has until it flushes. -/
inductive Alike (change : Writer → Writer) (P : Run → Prop) : Outcome → Outcome → Prop
  | running {r : Run} (h : P r) : Alike change P (.running r) (.running (r.onWriter change))
  | failed {error : MachineError} {r : Run} (h : P r) :
      Alike change P (.finished (.error error) r) (.finished (.error error) (r.onWriter change))
  | ended {r : Run} (h : P r) (hend : r.cursor.atEnd = true) :
      Alike change P (.finished r.world.flushed.1 r.ended)
        (.finished (r.onWriter change).world.flushed.1 (r.onWriter change).ended)

/-- Whatever a round is concluded with, it is concluded alike for both. -/
theorem alike_conclude {P : Run → Prop} (h : P r) (failure : Option MachineError) :
    Alike change P (r.conclude failure) ((r.onWriter change).conclude failure) := by
  cases failure with
  | some error => exact .failed h
  | none =>
      show Alike change P r.settle (r.onWriter change).settle
      rw [settle, settle]
      by_cases hend : r.cursor.atEnd = true
      · rw [if_pos hend, if_pos (show (r.onWriter change).cursor.atEnd = true from hend)]
        exact .ended h hend
      · rw [if_neg hend, if_neg (show ¬ (r.onWriter change).cursor.atEnd = true from hend)]
        exact .running h

/-- Two runs whose outputs differ unnoticed make the same rounds. -/
theorem runFor_alike (hchange : Writer.Unnoticed change) {P : Writer → Prop}
    (hwrite : ∀ w b, P w → P (w.write b).2) (hstart : start.Intact program setup)
    (hP : P start.writer) (rounds : Nat) :
    ∃ o o', start.runFor rounds = .ok o ∧ (start.onWriter change).runFor rounds = .ok o' ∧
      Alike change (fun r => P r.writer) o o' := by
  induction rounds with
  | zero => exact ⟨_, _, rfl, rfl, .running hP⟩
  | succ rounds ih =>
      obtain ⟨o, o', hrun, hrun', halike⟩ := ih
      cases halike with
      | failed h => exact ⟨_, _, runFor_add hrun 1, runFor_add hrun' 1, .failed h⟩
      | ended h hend => exact ⟨_, _, runFor_add hrun 1, runFor_add hrun' 1, .ended h hend⟩
      | @running r h =>
          have hintact : r.Intact program setup := hstart.of_runFor hrun
          obtain ⟨failure, r', hturn⟩ := hintact.exists_turn
          have hnext := hturn.alike change fun _ => hchange _ _
          have hkept : P r'.writer := by
            rw [hturn.writer_eq]
            split
            · exact hwrite _ _ h
            · exact h
          exact ⟨_, _, runFor_next hrun hturn.round_eq, runFor_next hrun' hnext,
            alike_conclude hkept failure⟩

/-- **As long as every byte is accepted**, a run makes the rounds of one that accepts everything,
    and it has accepted as many bytes as it has executed `.`. -/
theorem accepting_alongside (hstart : start.Intact program setup)
    (hrun : start.runFor rounds = .ok (.running r)) :
    (start.onWriter .unlimited).runFor rounds = .ok (.running (r.onWriter .unlimited)) ∧
      start.executions '.' rounds = (start.onWriter .unlimited).executions '.' rounds ∧
      r.writer.accepted.size = start.writer.accepted.size + start.executions '.' rounds := by
  induction rounds generalizing r with
  | zero =>
      obtain rfl := Outcome.running.inj (Except.ok.inj hrun)
      exact ⟨rfl, rfl, rfl⟩
  | succ rounds ih =>
      obtain ⟨s, hprevious, hround⟩ := exists_of_runFor_succ hrun
      obtain ⟨halongside, hcount, hsize⟩ := ih hprevious
      have hintact : s.Intact program setup := hstart.of_runFor hprevious
      obtain ⟨failure, r', hturn⟩ := hintact.exists_turn
      -- the run goes on, so nothing has failed
      have hconclude : r'.conclude failure = .running r :=
        Except.ok.inj (hturn.round_eq.symm.trans hround)
      obtain ⟨rfl, hrunning⟩ : failure = none ∧ r'.settle = .running r := by
        cases failure with
        | some error => exact nomatch hconclude
        | none => exact ⟨rfl, hconclude⟩
      obtain ⟨hend, rfl⟩ := settle_eq_running_iff.mp hrunning
      -- and a byte that was accepted here is accepted by the other writer too
      have halike := hturn.alike .unlimited fun hdot => by
        rw [hturn.accepts rfl hdot]
        exact Writer.write_unlimited (hturn.accepts rfl hdot)
      have hgoes : (r'.onWriter .unlimited).settle = .running (r'.onWriter .unlimited) :=
        settle_eq_running_iff.mpr ⟨hend, rfl⟩
      refine ⟨?_, ?_, ?_⟩
      · rw [runFor_next halongside halike]
        exact congrArg Except.ok hgoes
      · rw [executions_succ, executions_succ, hcount, executesAt, executesAt, hprevious, halongside]
        rfl
      · rw [hturn.size_accepted, hsize, executions_succ, executesAt, hprevious]
        exact Nat.add_assoc _ _ _

/-! ## What is kept -/

/-- Two runs have the same tape and pointer, the same input left, and have written the same. -/
structure SameWork (r q : Run) : Prop where
  tape_eq : r.machine.tape = q.machine.tape
  reader_eq : r.reader = q.reader
  accepted_eq : r.writer.accepted = q.writer.accepted

/-- A byte that is refused ends a run where one that accepts everything stands before the same `.`,
    with the bytes that are before it in what the other run writes, however long that goes on. -/
def RefusalKeepsWork (run free : Run) : Prop :=
  ∀ rounds r failure, run.runFor rounds = .ok (.running r) → r.executes '.' = true →
    Writer.Refuses r.writer.script failure →
    ∃ r' r'', run.runFor (rounds + 1) = .ok (.finished (.error (.io failure)) r') ∧
      free.runFor rounds = .ok (.running r'') ∧ r''.executes '.' = true ∧
      run.executions '.' rounds = free.executions '.' rounds ∧ r'.SameWork r'' ∧
      ∀ more o, free.runFor (rounds + more) = .ok o →
        r'.writer.accepted.toList
          = o.run.writer.accepted.toList.take (free.executions '.' rounds)

/-- A read that fails ends a run with the tape and the output as they were before the `,`, with a
    byte for each `.` that was executed. -/
def ReadFailureKeepsWork (run : Run) : Prop :=
  ∀ rounds r failure, run.runFor rounds = .ok (.running r) → r.executes ',' = true →
    Reader.Fails r.reader.script failure →
    ∃ r', run.runFor (rounds + 1) = .ok (.finished (.error (.io failure)) r') ∧
      r'.machine.tape = r.machine.tape ∧ r'.writer = r.writer ∧
      r'.writer.accepted.size = run.executions '.' rounds

/-- What a run ends with that has come to the end of its program. -/
def flushResult : Option IoFailure → Except MachineError Unit
  | none => .ok ()
  | some failure => .error (.io failure)

/-- Outcomes of a run, and of the same run with a flush that succeeds. -/
inductive FlushedAlike (flushFailure : Option IoFailure) : Outcome → Outcome → Prop
  /-- Both go on, and nothing was flushed. -/
  | running {r q : Run} (hflushes : r.writer.flushes = 0) (h : r.SameWork q) :
      FlushedAlike flushFailure (.running r) (.running q)
  /-- Both have failed before the end, and nothing was flushed. -/
  | failed {error : MachineError} {r q : Run} (hflushes : r.writer.flushes = 0)
      (h : r.SameWork q) :
      FlushedAlike flushFailure (.finished (.error error) r) (.finished (.error error) q)
  /-- Both have come to the end, and have flushed once. -/
  | ended {r q : Run} (hend : r.cursor.atEnd = true) (hflushes : r.writer.flushes = 1)
      (h : r.SameWork q) :
      FlushedAlike flushFailure (.finished (flushResult flushFailure) r) (.finished (.ok ()) q)

/-- A run flushes when it has come to the end of its program, once, and that changes nothing but
    what it ends with. -/
def FlushComesLast (flushFailure : Option IoFailure) (run quiet : Run) : Prop :=
  ∀ rounds, ∃ o o', run.runFor rounds = .ok o ∧ quiet.runFor rounds = .ok o' ∧
    FlushedAlike flushFailure o o'

/-- A character that is executed stands before the cursor. -/
theorem Intact.ready_of_executes (h : r.Intact program setup) {c : Char}
    (hc : r.executes c = true) :
    ∃ front back, r.Ready program front (c :: back) ∧ r.machine.isSkipping = false := by
  obtain ⟨⟨front, back, hready⟩, -⟩ := h
  cases back with
  | nil =>
      rw [executes, hready.between.rest_eq] at hc
      exact nomatch hc
  | cons d back =>
      rw [hready.executes_eq, Bool.and_eq_true, beq_iff_eq, Bool.not_eq_true'] at hc
      obtain ⟨rfl, hskip⟩ := hc
      exact ⟨front, back, hready, hskip⟩

/-- **A refusal keeps the work**: what is written before a byte is refused is what a run whose
    output accepts everything writes up to there. -/
theorem refusalKeepsWork (hstart : start.Intact program setup)
    (hnone : start.writer.accepted = #[]) :
    start.RefusalKeepsWork (start.onWriter .unlimited) := by
  intro rounds r failure hrun hdot hrefuses
  have hintact : r.Intact program setup := hstart.of_runFor hrun
  obtain ⟨front, back, hready, hskip⟩ := hintact.ready_of_executes hdot
  obtain ⟨rest, hwrite⟩ := Writer.write_of_refuses (b := r.machine.tape.cell) hrefuses
  have hact : r.world.act r.machine.setup.inputEnd '.'
      = (some failure, { r.world with writer := { r.writer with script := rest } }) := by
    have hwrite' : r.world.writer.write r.world.tape.cell = _ := hwrite
    simp only [World.act, hwrite']
  obtain ⟨halongside, hcount, hsize⟩ := accepting_alongside hstart hrun
  have hfail := hready.round_fail (by decide) (by decide) hskip hact
  refine ⟨_, r.onWriter .unlimited, runFor_next hrun hfail, halongside, hdot, hcount,
    ⟨rfl, rfl, rfl⟩, ?_⟩
  intro more o hmore
  have hfree : (r.onWriter .unlimited).Intact program setup :=
    ⟨⟨front, _, hready.onWriter _⟩, hintact.setup_eq⟩
  rw [runFor_add halongside] at hmore
  -- what the other run has accepted at the `.` begins what it accepts later
  have hwritten : (r.onWriter .unlimited).writer.accepted.toList <+: o.run.writer.accepted.toList :=
    (Intact.before hfree hmore).written
  have hprefix := List.prefix_iff_eq_take.mp hwritten
  have hlength : (r.onWriter .unlimited).writer.accepted.toList.length
      = (start.onWriter .unlimited).executions '.' rounds := by
    show r.writer.accepted.size = _
    rw [hsize, hnone, ← hcount]
    exact Nat.zero_add _
  rw [hlength] at hprefix
  exact hprefix

/-- **A read that fails keeps the work**: the run ends with its tape and its output as they were. -/
theorem readFailureKeepsWork (hstart : start.Intact program setup)
    (hnone : start.writer.accepted = #[]) : start.ReadFailureKeepsWork := by
  intro rounds r failure hrun hcomma hfails
  have hintact : r.Intact program setup := hstart.of_runFor hrun
  obtain ⟨front, back, hready, hskip⟩ := hintact.ready_of_executes hcomma
  obtain ⟨rest, hread⟩ := Reader.read_of_fails hfails
  have hact : r.world.act r.machine.setup.inputEnd ','
      = (some failure, { r.world with reader := ⟨rest⟩ }) := by
    have hread' : r.world.reader.read = _ := hread
    simp only [World.act, hread']
  obtain ⟨-, -, hsize⟩ := accepting_alongside hstart hrun
  have hfail := hready.round_fail (by decide) (by decide) hskip hact
  refine ⟨_, runFor_next hrun hfail, rfl, rfl, ?_⟩
  show r.writer.accepted.size = _
  rw [hsize, hnone]
  exact Nat.zero_add _

/-- What two runs have in common with a third one they have in common. -/
theorem SameWork.trans {s : Run} (h : r.SameWork r') (h' : r'.SameWork s) : r.SameWork s where
  tape_eq := h.tape_eq.trans h'.tape_eq
  reader_eq := h.reader_eq.trans h'.reader_eq
  accepted_eq := h.accepted_eq.trans h'.accepted_eq

theorem SameWork.symm (h : r.SameWork r') : r'.SameWork r where
  tape_eq := h.tape_eq.symm
  reader_eq := h.reader_eq.symm
  accepted_eq := h.accepted_eq.symm

/-- The flush leaves the work that was done. -/
theorem sameWork_ended (hend : r.cursor.atEnd = true) : r.ended.SameWork r := by
  have hsettle : r.settle.run = r.ended := by
    rw [settle, if_pos hend]
    rfl
  obtain ⟨htape, hreader, haccepted⟩ := r.settle_leaves
  rw [hsettle] at htape hreader haccepted
  exact ⟨htape, hreader, haccepted⟩

/-- The flush of a world answers as its writer is to answer. -/
theorem flushed_eq_flushResult (r : Run) :
    r.world.flushed.1 = flushResult r.writer.flushFailure := by
  obtain ⟨machine, cursor, reader, ⟨script, ⟨⟩ | failure, accepted, flushes⟩, log⟩ := r <;> rfl

theorem cursor_ended (r : Run) : r.ended.cursor = r.cursor := by
  rw [ended]
  cases r.machine.loops.isEmpty <;> rfl

/-- **The flush comes last**: a run flushes once, at the end of its program, and how that turns out
    changes the result only. -/
theorem flushComesLast (hstart : start.Intact program setup) (hnone : start.writer.flushes = 0) :
    start.FlushComesLast start.writer.flushFailure (start.onWriter (.flushing none)) := by
  intro rounds
  have hwrite : ∀ (w : Writer) b, w.flushes = 0 ∧ w.flushFailure = start.writer.flushFailure →
      (w.write b).2.flushes = 0 ∧ (w.write b).2.flushFailure = start.writer.flushFailure := by
    rintro w b ⟨hflushes, hfailure⟩
    exact ⟨(w.flushes_write b).trans hflushes, (w.flushFailure_write b).trans hfailure⟩
  obtain ⟨o, o', hrun, hrun', halike⟩ :=
    runFor_alike (Writer.unnoticed_flushing none) hwrite hstart ⟨hnone, rfl⟩ rounds
  refine ⟨o, o', hrun, hrun', ?_⟩
  cases halike with
  | running h => exact .running h.1 ⟨rfl, rfl, rfl⟩
  | failed h => exact .failed h.1 ⟨rfl, rfl, rfl⟩
  | @ended r h hend =>
      have hquiet : (r.onWriter (.flushing none)).cursor.atEnd = true := hend
      have hsame : r.SameWork (r.onWriter (.flushing none)) := ⟨rfl, rfl, rfl⟩
      have hsame' : r.ended.SameWork (r.onWriter (.flushing none)).ended :=
        ((sameWork_ended hend).trans hsame).trans (sameWork_ended hquiet).symm
      rw [flushed_eq_flushResult, flushed_eq_flushResult, h.2]
      refine .ended ?_ ?_ hsame'
      · rw [cursor_ended, hend]
      · rw [flushes_ended, h.1]

end Run

namespace Machine

variable {m : Machine}

/-- **FAILURES KEEP THE WORK BEFORE THEM**: over every program, tape, input and output a byte that
    is refused ends the run where one with unlimited output is about to write it; a read that fails
    ends it where it was; and the flush comes once, at the end, and fails for itself only. -/
theorem io_failures_keep_work (fits : m.program.width < wordLimit) (htape : m.tape.Valid)
    (reader : Reader) (answers : List Acceptance) (flushFailure : Option IoFailure) :
    (m.start reader (.ofScript answers flushFailure)).RefusalKeepsWork
      (m.start reader .accepting) ∧
    (m.start reader (.ofScript answers flushFailure)).ReadFailureKeepsWork ∧
    (m.start reader (.ofScript answers flushFailure)).FlushComesLast flushFailure
      (m.start reader (.ofScript answers none)) := by
  have hstart := Run.intact_start htape fits reader (.ofScript answers flushFailure)
  exact ⟨Run.refusalKeepsWork hstart rfl, Run.readFailureKeepsWork hstart rfl,
    Run.flushComesLast hstart rfl⟩

/-- Two bytes are to be written, and the second one is refused after an interruption; and a read
    that fails after one, on a machine whose flush would fail too. -/
theorem io_failures_keep_work_on_one_cell :
    Text.width ['.', '.'] < wordLimit ∧ Text.width [','] < wordLimit ∧ Tape.Valid ⟨#[7], 0⟩ ∧
      (∃ run free : Run,
        run = start ⟨['.', '.'], MachineSetup.standard, ⟨#[7], 0⟩, []⟩ ⟨[]⟩
          (.ofScript [.accepted, .failed .interrupted, .refused] none) ∧
        free = start ⟨['.', '.'], MachineSetup.standard, ⟨#[7], 0⟩, []⟩ ⟨[]⟩ .accepting ∧
        ∃ r' r'', run.runFor 2 = .ok (.finished (.error (.io .writeZero)) r') ∧
          free.runFor 1 = .ok (.running r'') ∧ r''.executes '.' = true ∧ r'.SameWork r'' ∧
          ∀ more o, free.runFor (1 + more) = .ok o → r'.writer.accepted.toList
            = o.run.writer.accepted.toList.take (free.executions '.' 1)) ∧
      ∃ run quiet : Run,
        run = start ⟨[','], MachineSetup.standard, ⟨#[7], 0⟩, []⟩
          ⟨[.failed .interrupted, .failed .writeZero]⟩ (.ofScript [] (some .unexpectedEof)) ∧
        quiet = start ⟨[','], MachineSetup.standard, ⟨#[7], 0⟩, []⟩
          ⟨[.failed .interrupted, .failed .writeZero]⟩ (.ofScript [] none) ∧
        (∃ r', run.runFor 1 = .ok (.finished (.error (.io .writeZero)) r') ∧
          r'.machine.tape = ⟨#[7], 0⟩) ∧
        run.FlushComesLast (some .unexpectedEof) quiet := by
  have fits : Text.width ['.', '.'] < wordLimit := by decide
  have fits' : Text.width [','] < wordLimit := by decide
  have htape : Tape.Valid ⟨#[7], 0⟩ := ⟨by decide, by decide⟩
  let m : Machine := ⟨['.', '.'], MachineSetup.standard, ⟨#[7], 0⟩, []⟩
  let m' : Machine := ⟨[','], MachineSetup.standard, ⟨#[7], 0⟩, []⟩
  let reader : Reader := ⟨[.failed .interrupted, .failed .writeZero]⟩
  refine ⟨fits, fits', htape, ⟨m.start ⟨[]⟩ _, m.start ⟨[]⟩ _, rfl, rfl, ?_⟩,
    m'.start reader _, m'.start reader _, rfl, rfl, ?_, ?_⟩
  · let run := m.start ⟨[]⟩ (.ofScript [.accepted, .failed .interrupted, .refused] none)
    let w : World := ⟨⟨#[7], 0⟩, ⟨[]⟩, ⟨[.failed .interrupted, .refused], none, #[7], 0⟩⟩
    have hready : run.Ready ['.', '.'] [] ['.', '.'] := Run.ready_start (m := m) fits htape _ _
    have hready' : (run.acted '.' w).Ready ['.', '.'] ['.'] ['.'] :=
      hready.acted (by decide) (by decide) htape
    have hround := hready.round_act (w := w) (by decide) (by decide) rfl rfl
    rw [Run.settle_running hready'.between] at hround
    have hnone : run.runFor 0 = .ok (.running run) := rfl
    have hdot : (run.acted '.' w).executes '.' = true := hready'.executes_eq '.'
    obtain ⟨r', r'', hrun, hfree, hdot', -, hsame, htake⟩ :=
      (io_failures_keep_work (m := m) fits htape ⟨[]⟩ [.accepted, .failed .interrupted, .refused]
        none).1 1 _ _ (Run.runFor_next hnone hround) hdot (.again .nothing)
    exact ⟨r', r'', hrun, hfree, hdot', hsame, htake⟩
  · have hready : (m'.start reader (.ofScript [] (some .unexpectedEof))).Ready [','] [] [','] :=
      Run.ready_start (m := m') fits' htape _ _
    obtain ⟨r', hrun, htape', -⟩ :=
      (io_failures_keep_work (m := m') fits' htape reader [] (some .unexpectedEof)).2.1 0 _ _ rfl
        (hready.executes_eq ',') (.again (.error nofun nofun))
    exact ⟨r', hrun, htape'⟩
  · exact (io_failures_keep_work (m := m') fits' htape reader [] _).2.2

end Machine

end TextCursor
