import TextCursor.Proofs.Brackets
import TextCursor.Proofs.Worlds

/-! # Rounds of a run

    Between two rounds a run stands behind one part of its program and before
    another, and its open loops are the open brackets of what it has read.  This
    is `Run.Ready`; it holds at the start of every run, whatever loops an earlier
    run has left behind.

    From a ready run one round is one of seven things, which `Run.Round` lists
    with everything that they change: a loop opens, is left, or begins again; a
    `]` has no `[`; another character is skipped, acts, or fails.  `round_ok` says
    that each round is one of them and none meets a fault, and `runFor_ok` carries
    what rounds keep over to runs. -/

namespace TextCursor

deriving instance DecidableEq for Outcome

namespace Outcome

/-- The run of an outcome. -/
def run : Outcome → Run
  | .running r => r
  | .finished _ r => r

/-- Continues an outcome for at most so many rounds; what is finished stays. -/
def runFor (rounds : Nat) : Outcome → Checked Outcome
  | .running r => r.runFor rounds
  | .finished result r => .ok (.finished result r)

/-- A property of runs that go on, and one of runs that are over. -/
def Satisfies (P : Run → Prop) (Q : Except MachineError Unit → Run → Prop) : Outcome → Prop
  | .running r => P r
  | .finished result r => Q result r

end Outcome

namespace Run

variable {r r' : Run} {program front back : Text} {d : Char}

/-! ## Runs -/

/-- The first round may be made apart from the others. -/
theorem runFor_succ {o : Outcome} (h : r.round = .ok o) (rounds : Nat) :
    r.runFor (rounds + 1) = o.runFor rounds := by
  rw [runFor, h]
  cases o with
  | running r' => rfl
  | finished result r' => rfl

/-- Rounds may be counted in two parts. -/
theorem runFor_add {m : Nat} {o : Outcome} (h : r.runFor m = .ok o) (n : Nat) :
    r.runFor (m + n) = o.runFor n := by
  induction m generalizing r with
  | zero =>
      obtain rfl := Except.ok.inj h
      rw [Nat.zero_add]
      rfl
  | succ m ih =>
      rw [Nat.add_right_comm]
      cases hround : r.round with
      | error fault =>
          rw [runFor, hround] at h
          exact nomatch h
      | ok o' =>
          rw [runFor_succ hround] at h ⊢
          cases o' with
          | running r' => exact ih h
          | finished result r' =>
              obtain rfl := Except.ok.inj h
              rfl

/-- One round more. -/
theorem runFor_next {start : Run} {rounds : Nat} {o : Outcome}
    (h : start.runFor rounds = .ok (.running r)) (hround : r.round = .ok o) :
    start.runFor (rounds + 1) = .ok o := by
  rw [runFor_add h]
  show r.runFor (0 + 1) = .ok o
  rw [runFor_succ hround]
  cases o <;> rfl

/-- One round less. -/
theorem exists_of_runFor_succ {start : Run} {rounds : Nat}
    (h : start.runFor (rounds + 1) = .ok (.running r')) :
    ∃ r, start.runFor rounds = .ok (.running r) ∧ r.round = .ok (.running r') := by
  induction rounds generalizing start with
  | zero =>
      refine ⟨start, rfl, ?_⟩
      cases hround : start.round with
      | error fault =>
          rw [runFor, hround] at h
          exact nomatch h
      | ok o =>
          rw [runFor_succ hround] at h
          cases o with
          | running r => rw [Outcome.running.inj (Except.ok.inj h)]
          | finished result r => exact nomatch Except.ok.inj h
  | succ rounds ih =>
      cases hround : start.round with
      | error fault =>
          rw [runFor, hround] at h
          exact nomatch h
      | ok o =>
          rw [runFor_succ hround] at h
          cases o with
          | finished result r => exact nomatch Except.ok.inj h
          | running s =>
              obtain ⟨r, hrun, hlast⟩ := ih h
              refine ⟨r, ?_, hlast⟩
              rw [runFor_succ hround]
              exact hrun

/-- What each round keeps, every number of rounds keeps, and without a fault. -/
theorem runFor_ok {P : Run → Prop} {Q : Except MachineError Unit → Run → Prop}
    (hround : ∀ r, P r → ∃ o, r.round = .ok o ∧ o.Satisfies P Q) (rounds : Nat) :
    ∀ r, P r → ∃ o, r.runFor rounds = .ok o ∧ o.Satisfies P Q := by
  induction rounds with
  | zero => exact fun r h => ⟨.running r, rfl, h⟩
  | succ rounds ih =>
      intro r h
      obtain ⟨o, hok, hkept⟩ := hround r h
      rw [runFor_succ hok]
      cases o with
      | running r' => exact ih r' hkept
      | finished result r' => exact ⟨_, rfl, hkept⟩

/-- The same for a property that a run has whether it goes on or is over. -/
theorem runFor_run {P : Run → Prop} (hround : ∀ r, P r → ∃ o, r.round = .ok o ∧ P o.run)
    (rounds : Nat) : ∀ r, P r → ∃ o, r.runFor rounds = .ok o ∧ P o.run := by
  have hsatisfies : ∀ o : Outcome, o.Satisfies P (fun _ => P) ↔ P o.run := by
    intro o
    cases o <;> exact Iff.rfl
  have hround' : ∀ r, P r → ∃ o, r.round = .ok o ∧ o.Satisfies P (fun _ => P) := by
    intro r h
    obtain ⟨o, hok, hkept⟩ := hround r h
    exact ⟨o, hok, (hsatisfies o).mpr hkept⟩
  intro r h
  obtain ⟨o, hok, hkept⟩ := runFor_ok hround' rounds r h
  exact ⟨o, hok, (hsatisfies o).mp hkept⟩

/-! ## What a round changes -/

/-- The run behind one more character of its program. -/
def passed (r : Run) (d : Char) : Run :=
  { r with cursor := { r.cursor with offset := r.cursor.offset + d.utf8Size } }

/-- Whether the body of a loop that opens now is skipped. -/
def skips (r : Run) : Bool :=
  r.machine.isSkipping || r.machine.tape.cell == 0

/-- The run in a loop whose `[` stands at an offset. -/
def opened (r : Run) (offset : Nat) : Run :=
  ((r.passed '[').report (.loopStart offset r.skips)).withLoops
    (⟨offset, r.skips⟩ :: r.machine.loops)

/-- The run behind a `]` that leaves the given loops open. -/
def closed (r : Run) (loops : List OpenLoop) : Run :=
  (r.passed ']').withLoops loops

/-- The run back at a `[` outside of which the given loops are open. -/
def rewound (r : Run) (start : Nat) (loops : List OpenLoop) : Run :=
  { ((r.passed ']').withLoops loops).report (.loopRewind start) with
    cursor := { r.cursor with offset := start } }

/-- The run behind a `]` at an offset that has no `[`. -/
def strayed (r : Run) (offset : Nat) : Run :=
  (r.passed ']').report (.unmatchedEnd offset)

/-- The run behind a character that has led to another world. -/
def acted (r : Run) (d : Char) (w : World) : Run :=
  (r.passed d).withWorld w

/-- The run at the end of its program, flushed, with the loops that are open there reported. -/
def ended (r : Run) : Run :=
  { (if r.machine.loops.isEmpty then r
      else r.report (.endedInside r.machine.loops.length)) with
    writer := r.writer.flush.2 }

/-- A round ends the run at the end of the text. -/
def settle (r : Run) : Outcome :=
  if r.cursor.atEnd then .finished r.world.flushed.1 r.ended else .running r

/-- What finishes a run is its end. -/
theorem finish_eq (r : Run) : r.finish = .finished r.world.flushed.1 r.ended := by
  rw [finish, ended]
  cases r.machine.loops.isEmpty <;> rfl

theorem settle_eq (r : Run) : (if r.cursor.atEnd then r.finish else .running r) = r.settle := by
  rw [settle, finish_eq]

theorem settle_end (h : r.cursor.Between front []) :
    r.settle = .finished r.world.flushed.1 r.ended := by
  rw [settle, if_pos (h.atEnd_iff.mpr rfl)]

theorem settle_running (h : r.cursor.Between front (d :: back)) : r.settle = .running r := by
  rw [settle, if_neg]
  rw [h.atEnd_iff]
  exact List.cons_ne_nil d back

/-- Settling goes on with the run as it is, if there is more to read. -/
theorem settle_eq_running_iff : r.settle = .running r' ↔ r.cursor.atEnd = false ∧ r = r' := by
  rw [settle]
  cases r.cursor.atEnd with
  | true => simp
  | false => simp

/-! ## Ready runs -/

/-- A run between two rounds: what it has read, what it has before it, and the brackets that are
    open there. -/
structure Ready (program front back : Text) (r : Run) : Prop where
  program_eq : r.machine.program = program
  text_eq : program = front ++ back
  between : r.cursor.Between front back
  fits : program.width < wordLimit
  tape : r.machine.tape.Valid
  starts : r.machine.loops.map OpenLoop.start = (Text.openings front).map Text.width

/-- A run starts ready, whatever its machine has been through. -/
theorem ready_start {m : Machine} (fits : m.program.width < wordLimit) (htape : m.tape.Valid)
    (reader : Reader) (writer : Writer) :
    (m.start reader writer).Ready m.program [] m.program where
  program_eq := rfl
  text_eq := rfl
  between := Cursor.between_ofText m.program Window.standard
  fits := fits
  tape := htape
  starts := rfl

namespace Ready

/-- The text of a ready run fits in a word. -/
theorem cursor_fits (h : r.Ready program front back) : r.cursor.text.width < wordLimit := by
  rw [h.between.text_eq, ← h.text_eq]
  exact h.fits

/-- As many loops are open as brackets are. -/
theorem length_loops (h : r.Ready program front back) :
    r.machine.loops.length = (Text.openings front).length := by
  have := congrArg List.length h.starts
  rwa [List.length_map, List.length_map] at this

/-- Where no loop is open, no bracket is. -/
theorem openings_eq_nil (h : r.Ready program front back) (hloops : r.machine.loops = []) :
    Text.openings front = [] := by
  have hlength := h.length_loops
  rw [hloops] at hlength
  exact List.eq_nil_of_length_eq_zero hlength.symm

/-- Where no bracket is open, no loop is. -/
theorem loops_eq_nil (h : r.Ready program front back) (hnil : Text.openings front = []) :
    r.machine.loops = [] := by
  have hlength := h.length_loops
  rw [hnil] at hlength
  exact List.eq_nil_of_length_eq_zero hlength

/-- No more is read than there is. -/
theorem snoc_eq (h : r.Ready program front (d :: back)) : program = (front ++ [d]) ++ back := by
  rw [h.text_eq, List.append_assoc]
  rfl

/-- Behind a character the cursor stands between the text with it and the text without. -/
theorem between_passed (h : r.Ready program front (d :: back)) :
    (r.passed d).cursor.Between (front ++ [d]) back := by
  have hback : d :: back = [d] ++ back := rfl
  exact h.between.passed hback

/-- A loop that opens keeps the run ready. -/
theorem opened (h : r.Ready program front ('[' :: back)) :
    (r.opened front.width).Ready program (front ++ ['[']) back where
  program_eq := h.program_eq
  text_eq := h.snoc_eq
  between := h.between_passed
  fits := h.fits
  tape := h.tape
  starts := by
    show front.width :: r.machine.loops.map OpenLoop.start = _
    rw [Text.openings_open, List.map_cons, h.starts]

/-- A loop that is closed keeps the run ready. -/
theorem closed (h : r.Ready program front (']' :: back)) {innermost : OpenLoop}
    {loops : List OpenLoop} (hloops : r.machine.loops = innermost :: loops) :
    (r.closed loops).Ready program (front ++ [']']) back where
  program_eq := h.program_eq
  text_eq := h.snoc_eq
  between := h.between_passed
  fits := h.fits
  tape := h.tape
  starts := by
    have hstarts := h.starts
    rw [hloops, List.map_cons] at hstarts
    show loops.map OpenLoop.start = _
    rw [Text.openings_close, List.map_tail, ← hstarts, List.tail_cons]

/-- The innermost open loop began at the innermost open bracket, and a balanced text has been
    read since. -/
theorem innermost_start (h : r.Ready program front back) {innermost : OpenLoop}
    {loops : List OpenLoop} (hloops : r.machine.loops = innermost :: loops) :
    ∃ before body, front = before ++ '[' :: body ∧ Text.Balanced body ∧
      innermost.start = before.width ∧
      loops.map OpenLoop.start = (Text.openings before).map Text.width := by
  have hstarts := h.starts
  rw [hloops, List.map_cons] at hstarts
  cases hopen : Text.openings front with
  | nil =>
      rw [hopen] at hstarts
      exact nomatch hstarts
  | cons before outer =>
      rw [hopen, List.map_cons] at hstarts
      obtain ⟨hstart, houter⟩ := List.cons.inj hstarts
      obtain ⟨body, hfront, hbody, hbefore⟩ := Text.eq_of_openings_eq_cons hopen
      exact ⟨before, body, hfront, hbody, hstart, by rw [houter, hbefore]⟩

/-- The way back to a `[` keeps the run ready. -/
theorem rewound {before body : Text} (h : r.Ready program (before ++ '[' :: body) (']' :: back))
    {loops : List OpenLoop}
    (hloops : loops.map OpenLoop.start = (Text.openings before).map Text.width) :
    (r.rewound before.width loops).Ready program before ('[' :: (body ++ ']' :: back)) where
  program_eq := h.program_eq
  text_eq := by
    rw [h.text_eq, List.append_assoc]
    rfl
  between := by
    refine ⟨?_, rfl⟩
    show r.cursor.text = _
    rw [h.between.text_eq, List.append_assoc]
    rfl
  fits := h.fits
  tape := h.tape
  starts := hloops

/-- A stray `]` keeps the run ready. -/
theorem strayed (h : r.Ready program front (']' :: back)) (hnil : Text.openings front = []) :
    (r.strayed front.width).Ready program (front ++ [']']) back where
  program_eq := h.program_eq
  text_eq := h.snoc_eq
  between := h.between_passed
  fits := h.fits
  tape := h.tape
  starts := by
    show r.machine.loops.map OpenLoop.start = _
    rw [h.starts, Text.openings_close, hnil]
    rfl

/-- An instruction keeps the run ready, whatever world it leads to. -/
theorem acted (h : r.Ready program front (d :: back)) (hopen : d ≠ '[') (hclose : d ≠ ']')
    {w : World} (hw : w.tape.Valid) : (r.acted d w).Ready program (front ++ [d]) back where
  program_eq := h.program_eq
  text_eq := h.snoc_eq
  between := h.between_passed
  fits := h.fits
  tape := hw
  starts := by
    show r.machine.loops.map OpenLoop.start = _
    rw [h.starts, Text.openings_plain front hopen hclose]

/-- A character that is skipped keeps the run ready. -/
theorem passed (h : r.Ready program front (d :: back)) (hopen : d ≠ '[') (hclose : d ≠ ']') :
    (r.passed d).Ready program (front ++ [d]) back :=
  h.acted hopen hclose (w := r.world) h.tape

/-! ## Rounds -/

/-- A round takes a character, executes it, and settles. -/
theorem round_of_step (h : r.Ready program front (d :: back))
    (hstep : (r.passed d).step d = .ok (none, r')) : r.round = .ok r'.settle := by
  rw [round, h.between.take_char h.cursor_fits]
  show ((r.passed d).step d >>= _) = _
  rw [hstep]
  exact congrArg Except.ok (settle_eq r')

/-- A round ends the run when executing its character fails. -/
theorem round_of_failure (h : r.Ready program front (d :: back)) {error : MachineError}
    (hstep : (r.passed d).step d = .ok (some error, r')) :
    r.round = .ok (.finished (.error error) r') := by
  rw [round, h.between.take_char h.cursor_fits]
  show ((r.passed d).step d >>= _) = _
  rw [hstep]
  rfl

/-- At the end of its program a run ends. -/
theorem round_end (h : r.Ready program front []) : r.round = .ok r.settle := by
  rw [round, h.between.take_end h.cursor_fits]
  exact congrArg Except.ok (settle_eq r)

/-- The offset of the character that has just been passed, if it is a bracket. -/
theorem offset_passed (h : r.Ready program front (d :: back)) (hone : d.utf8Size = 1) :
    checkedDifference (r.passed d).cursor.offset 1 = .ok front.width := by
  have hoffset : (r.passed d).cursor.offset = front.width + 1 := by
    show r.cursor.offset + d.utf8Size = _
    rw [h.between.offset_eq, hone]
  rw [hoffset, checkedDifference_of_le (Nat.le_add_left 1 _), Nat.add_sub_cancel]

/-- A `[` opens a loop. -/
theorem step_open (h : r.Ready program front ('[' :: back)) :
    (r.passed '[').step '[' = .ok (none, r.opened front.width) := by
  have hskips : (r.passed '[').machine.skipsBody = .ok r.skips := by
    show r.machine.skipsBody = _
    rw [Machine.skipsBody, skips, h.tape.current_eq]
    cases r.machine.isSkipping with
    | true => rfl
    | false => rfl
  show ((r.passed '[').enterLoop >>= _) = _
  rw [enterLoop, h.offset_passed rfl]
  show (((r.passed '[').machine.skipsBody >>= _) >>= _) = _
  rw [hskips]
  rfl

theorem round_open (h : r.Ready program front ('[' :: back)) :
    r.round = .ok (r.opened front.width).settle :=
  h.round_of_step h.step_open

/-- A `]` fails where no loop is open. -/
theorem step_stray (h : r.Ready program front (']' :: back)) (hloops : r.machine.loops = []) :
    (r.passed ']').step ']'
      = .ok (some (.unmatchedLoopEnd front.width), r.strayed front.width) := by
  show (r.passed ']').leaveLoop = _
  rw [leaveLoop, show (r.passed ']').machine.loops = [] from hloops]
  dsimp only
  rw [h.offset_passed rfl]
  rfl

theorem round_stray (h : r.Ready program front (']' :: back)) (hnil : Text.openings front = []) :
    r.round = .ok
      (.finished (.error (.unmatchedLoopEnd front.width)) (r.strayed front.width)) :=
  h.round_of_failure (h.step_stray (h.loops_eq_nil hnil))

/-- A `]` closes a loop that is skipped. -/
theorem step_close {innermost : OpenLoop} {loops : List OpenLoop}
    (hloops : r.machine.loops = innermost :: loops) (hskip : innermost.skip = true) :
    (r.passed ']').step ']' = .ok (none, r.closed loops) := by
  show (r.passed ']').leaveLoop = _
  rw [leaveLoop, show (r.passed ']').machine.loops = innermost :: loops from hloops]
  dsimp only
  rw [if_pos hskip]
  rfl

theorem round_close (h : r.Ready program front (']' :: back)) {innermost : OpenLoop}
    {loops : List OpenLoop} (hloops : r.machine.loops = innermost :: loops)
    (hskip : innermost.skip = true) : r.round = .ok (r.closed loops).settle :=
  h.round_of_step (step_close hloops hskip)

/-- A `]` goes back to the `[` of a loop that is executed. -/
theorem step_rewind {before body : Text}
    (h : r.Ready program (before ++ '[' :: body) (']' :: back)) {innermost : OpenLoop}
    {loops : List OpenLoop} (hloops : r.machine.loops = innermost :: loops)
    (hskip : innermost.skip = false) (hstart : innermost.start = before.width)
    (houter : loops.map OpenLoop.start = (Text.openings before).map Text.width) :
    (r.passed ']').step ']' = .ok (none, r.rewound before.width loops) := by
  -- the start of the loop is a cut of the program, so the cursor goes there exactly
  have htext : ((r.passed ']').withLoops loops).cursor.text
      = before ++ ('[' :: (body ++ ']' :: back)) := (h.rewound houter).between.text_eq
  show (r.passed ']').leaveLoop = _
  rw [leaveLoop, show (r.passed ']').machine.loops = innermost :: loops from hloops]
  dsimp only
  rw [if_neg (by rw [hskip]; exact Bool.false_ne_true), hstart, Cursor.moveTo_width htext]
  rfl

/-- Behind that `[` there is more to read, so the run goes on. -/
theorem round_rewind {before body : Text}
    (h : r.Ready program (before ++ '[' :: body) (']' :: back)) {innermost : OpenLoop}
    {loops : List OpenLoop} (hloops : r.machine.loops = innermost :: loops)
    (hskip : innermost.skip = false) (hstart : innermost.start = before.width)
    (houter : loops.map OpenLoop.start = (Text.openings before).map Text.width) :
    r.round = .ok (.running (r.rewound before.width loops)) := by
  -- the `[` stands before the cursor again, so this round cannot be the last
  rw [h.round_of_step (h.step_rewind hloops hskip hstart houter)]
  exact congrArg Except.ok (settle_running (h.rewound houter).between)

theorem round_skip (h : r.Ready program front (d :: back)) (hopen : d ≠ '[') (hclose : d ≠ ']')
    (hskip : r.machine.isSkipping = true) : r.round = .ok (r.passed d).settle :=
  h.round_of_step (step_skipping hopen hclose hskip)

/-- An instruction of a run that executes does what it does to the world. -/
theorem step_passed (h : r.Ready program front (d :: back)) (hopen : d ≠ '[') (hclose : d ≠ ']')
    (hskip : r.machine.isSkipping = false) {failure : Option IoFailure} {w : World}
    (hact : r.world.act r.machine.setup.inputEnd d = (failure, w)) :
    (r.passed d).step d = .ok (failure.map .io, r.acted d w) := by
  have hworld : (r.passed d).world.act (r.passed d).machine.setup.inputEnd d = (failure, w) := hact
  have hstep := step_act (r := r.passed d) hopen hclose hskip h.tape
  rw [hworld] at hstep
  exact hstep

theorem round_act (h : r.Ready program front (d :: back)) (hopen : d ≠ '[') (hclose : d ≠ ']')
    (hskip : r.machine.isSkipping = false) {w : World}
    (hact : r.world.act r.machine.setup.inputEnd d = (none, w)) :
    r.round = .ok (r.acted d w).settle :=
  h.round_of_step (h.step_passed hopen hclose hskip hact)

theorem round_fail (h : r.Ready program front (d :: back)) (hopen : d ≠ '[') (hclose : d ≠ ']')
    (hskip : r.machine.isSkipping = false) {failure : IoFailure} {w : World}
    (hact : r.world.act r.machine.setup.inputEnd d = (some failure, w)) :
    r.round = .ok (.finished (.error (.io failure)) (r.acted d w)) :=
  h.round_of_failure (h.step_passed hopen hclose hskip hact)

end Ready

/-- What one round makes of a run that stands behind `front` and before `d :: back`. -/
inductive Round (program front : Text) (d : Char) (back : Text) (r : Run) : Outcome → Prop
  /-- A loop opens. -/
  | opened (hd : d = '[') (h : (r.opened front.width).Ready program (front ++ [d]) back) :
      Round program front d back r (r.opened front.width).settle
  /-- A `]` has no `[`. -/
  | stray (hd : d = ']') (hnil : Text.openings front = [])
      (h : (r.strayed front.width).Ready program (front ++ [d]) back) :
      Round program front d back r
        (.finished (.error (.unmatchedLoopEnd front.width)) (r.strayed front.width))
  /-- A skipped loop is left. -/
  | closed {innermost : OpenLoop} {loops : List OpenLoop} (hd : d = ']')
      (hloops : r.machine.loops = innermost :: loops) (hskip : innermost.skip = true)
      (h : (r.closed loops).Ready program (front ++ [d]) back) :
      Round program front d back r (r.closed loops).settle
  /-- An executed loop begins again. -/
  | rewound {innermost : OpenLoop} {loops : List OpenLoop} {before body : Text} (hd : d = ']')
      (hloops : r.machine.loops = innermost :: loops) (hskip : innermost.skip = false)
      (hfront : front = before ++ '[' :: body) (hbody : Text.Balanced body)
      (h : (r.rewound before.width loops).Ready program before ('[' :: (body ++ d :: back))) :
      Round program front d back r (.running (r.rewound before.width loops))
  /-- A character is skipped. -/
  | skipped (hopen : d ≠ '[') (hclose : d ≠ ']') (hskip : r.machine.isSkipping = true)
      (h : (r.passed d).Ready program (front ++ [d]) back) :
      Round program front d back r (r.passed d).settle
  /-- An instruction acts. -/
  | acted {w : World} (hopen : d ≠ '[') (hclose : d ≠ ']') (hskip : r.machine.isSkipping = false)
      (hact : r.world.act r.machine.setup.inputEnd d = (none, w))
      (h : (r.acted d w).Ready program (front ++ [d]) back) :
      Round program front d back r (r.acted d w).settle
  /-- An instruction fails. -/
  | failed {failure : IoFailure} {w : World} (hopen : d ≠ '[') (hclose : d ≠ ']')
      (hskip : r.machine.isSkipping = false)
      (hact : r.world.act r.machine.setup.inputEnd d = (some failure, w))
      (h : (r.acted d w).Ready program (front ++ [d]) back) :
      Round program front d back r (.finished (.error (.io failure)) (r.acted d w))

/-- Each round of a ready run is one of the seven, and none meets a fault. -/
theorem round_ok (h : r.Ready program front (d :: back)) :
    ∃ o, r.round = .ok o ∧ Round program front d back r o := by
  -- the character decides, then the innermost loop, and last what the world answers
  by_cases hopen : d = '['
  · subst hopen
    exact ⟨_, h.round_open, .opened rfl h.opened⟩
  by_cases hclose : d = ']'
  · subst hclose
    cases hloops : r.machine.loops with
    | nil =>
        have hnil := h.openings_eq_nil hloops
        exact ⟨_, h.round_stray hnil, .stray rfl hnil (h.strayed hnil)⟩
    | cons innermost loops =>
        cases hskip : innermost.skip with
        | true => exact ⟨_, h.round_close hloops hskip, .closed rfl hloops hskip (h.closed hloops)⟩
        | false =>
            obtain ⟨before, body, rfl, hbody, hstart, houter⟩ := h.innermost_start hloops
            exact ⟨_, h.round_rewind hloops hskip hstart houter,
              .rewound rfl hloops hskip rfl hbody (h.rewound houter)⟩
  · cases hskip : r.machine.isSkipping with
    | true =>
        exact ⟨_, h.round_skip hopen hclose hskip,
          .skipped hopen hclose hskip (h.passed hopen hclose)⟩
    | false =>
        cases hact : r.world.act r.machine.setup.inputEnd d with
        | mk failure w =>
            have hw : w.tape.Valid := by
              have hvalid : (r.world.act r.machine.setup.inputEnd d).2.tape.Valid :=
                World.valid_act h.tape _ d
              rwa [hact] at hvalid
            cases failure with
            | none =>
                exact ⟨_, h.round_act hopen hclose hskip hact,
                  .acted hopen hclose hskip hact (h.acted hopen hclose hw)⟩
            | some failure =>
                exact ⟨_, h.round_fail hopen hclose hskip hact,
                  .failed hopen hclose hskip hact (h.acted hopen hclose hw)⟩

end Run

end TextCursor
