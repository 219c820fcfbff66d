import TextCursor.Proofs.IoFailures
import TextCursor.Proofs.SkippedLoops

/-! # What a run reports about its loops

    A run reports each `[` that it reads and each return to one, and at most one
    thing more, at its end: a `]` without a `[`, or that loops are still open.
    `Machine.log_traces_loops` says how far these reports can be trusted.

    Three facts about the log are kept along a run (`Run.Traced`): it holds no
    report about the end, entries and returns differ by the executing loops that
    are open, and each return is followed by another test of its `[`.  For the
    last return this may still have to come; then the cursor is back at the `[`,
    which is not skipped, so its cell decides.  A run cannot end there, because
    there is more to read. -/

namespace TextCursor

namespace Run

variable {r r' start : Run} {program front back rest : Text} {rounds : Nat}
  {failure : Option MachineError} {setup : MachineSetup}

/-! ## Executing one character -/

/-- Takes one character of the program and executes it: what a round does before it looks whether
    the text has ended. -/
def execute (r : Run) : Checked (Option MachineError × Run) := do
  let (passed, cursor) ← r.cursor.take 1
  let r := { r with cursor := cursor }
  match passed with
  | [] => return (none, r)
  | instruction :: _ => r.step instruction

/-- A round is one character executed, and concluded. -/
theorem round_of_execute (h : r.execute = .ok (failure, r')) :
    r.round = .ok (r'.conclude failure) := by
  rw [execute] at h
  obtain ⟨⟨passed, cursor⟩, htake, hpassed⟩ := exists_of_bind_eq_ok h
  rw [round, htake]
  cases passed with
  | nil =>
      obtain ⟨rfl, rfl⟩ := Prod.mk.inj (Except.ok.inj hpassed)
      exact congrArg Except.ok (settle_eq _)
  | cons instruction more =>
      have hstep : ({ r with cursor := cursor } : Run).step instruction = .ok (failure, r') :=
        hpassed
      show (({ r with cursor := cursor } : Run).step instruction >>= _) = _
      rw [hstep]
      cases failure with
      | some error => rfl
      | none => exact congrArg Except.ok (settle_eq r')

/-- Executing the next character is a step behind it. -/
theorem Ready.execute_of_step {d : Char} (h : r.Ready program front (d :: back))
    (hstep : (r.passed d).step d = .ok (failure, r')) : r.execute = .ok (failure, r') := by
  rw [execute, h.between.take_char h.cursor_fits]
  exact hstep

theorem Ready.execute_end (h : r.Ready program front []) : r.execute = .ok (none, r) := by
  rw [execute, h.between.take_end h.cursor_fits]
  rfl

/-- What is reported about the next character when it is executed, and what becomes of the open
    loops that are executing. -/
inductive Noted (program front back : Text) (r : Run) : Option MachineError → Run → Prop
  /-- A loop is entered. -/
  | entered {rest : Text} (hback : back = '[' :: rest)
      (h : (r.opened front.width).Ready program (front ++ ['[']) rest) :
      Noted program front back r none (r.opened front.width)
  /-- An executing loop begins again. -/
  | returned {before body rest : Text} {loops : List OpenLoop} (hback : back = ']' :: rest)
      (hloops : r.machine.loops = ⟨before.width, false⟩ :: loops)
      (h : (r.rewound before.width loops).Ready program before ('[' :: (body ++ ']' :: rest))) :
      Noted program front back r none (r.rewound before.width loops)
  /-- A `]` has no `[`. -/
  | stray {rest : Text} (hback : back = ']' :: rest) :
      Noted program front back r (some (.unmatchedLoopEnd front.width)) (r.strayed front.width)
  /-- Nothing is reported, and no executing loop is opened or left. -/
  | nothing {failure : Option MachineError} {r' : Run} {front' back' : Text}
      (hback : ∀ rest, back ≠ '[' :: rest)
      (hfailure : ∀ offset, failure ≠ some (.unmatchedLoopEnd offset))
      (hlog : r'.log = r.log)
      (hloops : ∀ s, r'.machine.loops.count ⟨s, false⟩ = r.machine.loops.count ⟨s, false⟩)
      (h : r'.Ready program front' back') : Noted program front back r failure r'

/-- The innermost loop began at the last `[` that is still open. -/
theorem Ready.start_eq {before body : Text} (h : r.Ready program (before ++ '[' :: body) back)
    (hbody : Text.Balanced body) {innermost : OpenLoop} {loops : List OpenLoop}
    (hloops : r.machine.loops = innermost :: loops) : innermost.start = before.width := by
  have hstarts := h.starts
  rw [hloops, Text.openings_append_open hbody] at hstarts
  exact (List.cons.inj hstarts).1

/-- Every character is executed, without a fault, and noted. -/
theorem Ready.exists_noted (h : r.Ready program front back) :
    ∃ failure r', r.execute = .ok (failure, r') ∧ Noted program front back r failure r' := by
  cases back with
  | nil => exact ⟨_, _, h.execute_end, .nothing nofun nofun rfl (fun _ => rfl) h⟩
  | cons d back =>
      obtain ⟨o, -, hcase⟩ := Run.round_ok h
      have hback : d ≠ '[' → ∀ rest, d :: back ≠ '[' :: rest := fun hd rest heq =>
        hd (List.cons.inj heq).1
      cases hcase with
      | opened hd hready =>
          subst hd
          exact ⟨_, _, h.execute_of_step h.step_open, .entered rfl hready⟩
      | stray hd hnil hready =>
          subst hd
          exact ⟨_, _, h.execute_of_step (h.step_stray (h.loops_eq_nil hnil)), .stray rfl⟩
      | @closed innermost loops hd hloops hskip hready =>
          subst hd
          refine ⟨_, _, h.execute_of_step (step_close hloops hskip),
            .nothing (hback (by decide)) nofun rfl (fun s => ?_) hready⟩
          -- the loop that is left was not executing
          have hne : innermost ≠ ⟨s, false⟩ := by
            rintro rfl
            exact nomatch hskip
          rw [hloops, List.count_cons_of_ne hne]
          rfl
      | @rewound innermost loops before body hd hloops hskip hfront hbody hready =>
          subst hd hfront
          have hstart := h.start_eq hbody hloops
          obtain ⟨s, skip⟩ := innermost
          obtain rfl : skip = false := hskip
          obtain rfl : s = before.width := hstart
          exact ⟨_, _, h.execute_of_step (h.step_rewind hloops rfl rfl hready.starts),
            .returned rfl hloops hready⟩
      | skipped hopen hclose hskip hready =>
          exact ⟨_, _, h.execute_of_step (step_skipping hopen hclose hskip),
            .nothing (hback hopen) nofun rfl (fun _ => rfl) hready⟩
      | acted hopen hclose hskip hact hready =>
          exact ⟨_, _, h.execute_of_step (h.step_passed hopen hclose hskip hact),
            .nothing (hback hopen) nofun rfl (fun _ => rfl) hready⟩
      | failed hopen hclose hskip hact hready =>
          exact ⟨_, _, h.execute_of_step (h.step_passed hopen hclose hskip hact),
            .nothing (hback hopen) nofun rfl (fun _ => rfl) hready⟩

/-! ## Where a run stops -/

/-- The last character that a run executes leaves it in a state: there it has failed, or the text
    has ended and the end is still to be reported. -/
def Stops (start : Run) (failure : Option MachineError) (r : Run) : Prop :=
  ∃ rounds last, start.runFor rounds = .ok (.running last) ∧ last.execute = .ok (failure, r) ∧
    (failure = none → r.cursor.atEnd = true)

/-- Where a run has stopped it is over. -/
theorem conclude_of_stops (hstops : failure = none → r.cursor.atEnd = true) :
    ∃ result r', r.conclude failure = .finished result r' := by
  cases failure with
  | some error => exact ⟨_, _, rfl⟩
  | none =>
      refine ⟨r.world.flushed.1, r.ended, ?_⟩
      rw [conclude, settle, if_pos (hstops rfl)]

/-- A run stops in one state only. -/
theorem Stops.unique {failure' : Option MachineError} (h : start.Stops failure r)
    (h' : start.Stops failure' r') : failure = failure' ∧ r = r' := by
  -- the run that stops first does not go on for as long as the other one
  have hle : ∀ {rounds rounds' : Nat} {last last' s : Run} {failure : Option MachineError},
      start.runFor rounds = .ok (.running last) → last.execute = .ok (failure, s) →
      (failure = none → s.cursor.atEnd = true) →
      start.runFor rounds' = .ok (.running last') → rounds' ≤ rounds := by
    intro rounds rounds' last last' s failure hrun hexecute hstops hrun'
    refine Nat.le_of_not_lt fun hlt => ?_
    obtain ⟨result, s', hconclude⟩ := conclude_of_stops hstops
    have hfinished := runFor_next hrun (round_of_execute hexecute)
    rw [hconclude] at hfinished
    have hover : Outcome.running last' = .finished result s' :=
      Outcome.eq_of_runFor_finished (o := .running start) (m := rounds + 1) hfinished hrun' hlt
    exact nomatch hover
  obtain ⟨rounds, last, hrun, hexecute, hstops⟩ := h
  obtain ⟨rounds', last', hrun', hexecute', hstops'⟩ := h'
  obtain rfl := Nat.le_antisymm (hle hrun' hexecute' hstops' hrun) (hle hrun hexecute hstops hrun')
  obtain rfl := Outcome.running.inj (Except.ok.inj (hrun.symm.trans hrun'))
  exact Prod.mk.inj (Except.ok.inj (hexecute.symm.trans hexecute'))

/-! ## Along a run -/

/-- A run reads the `[` at an offset when it has reported so many events, and skips its body exactly
    if the current cell is zero. -/
def Retests (start : Run) (k s : Nat) (skip : Bool) : Prop :=
  ∃ rounds state next, start.runFor rounds = .ok (.running state) ∧ state.log.size = k ∧
    state.cursor.offset = s ∧ state.execute = .ok (none, next) ∧
    next.log = state.log.push (.loopStart s skip) ∧
    (skip = true ↔ state.machine.tape.current = .ok 0)

/-- What the log of a run tells as long as the run has not stopped. -/
structure Traced (start : Run) (program front back : Text) (r : Run) : Prop
    extends r.Ready program front back where
  /-- Nothing is reported about the end. -/
  plain : ∀ event ∈ r.log, event.record.level = .trace
  /-- Each entry into a loop is followed by a return, or the loop is open and executing. -/
  entries : ∀ s, r.log.count (.loopStart s false)
    = r.log.count (.loopRewind s) + r.machine.loops.count ⟨s, false⟩
  /-- Each return but the last report is followed by another test. -/
  answered : ∀ k s, r.log[k]? = some (.loopRewind s) → k + 1 < r.log.size →
    ∃ skip, r.log[k + 1]? = some (.loopStart s skip) ∧ start.Retests (k + 1) s skip
  /-- If the last report is a return, that test is the next thing to do. -/
  awaited : ∀ s, r.log.back? = some (.loopRewind s) →
    front.width = s ∧ (∃ rest, back = '[' :: rest) ∧ r.machine.isSkipping = false

/-- A run begins with an empty log. -/
theorem traced_start {m : Machine} (fits : m.program.width < wordLimit) (htape : m.tape.Valid)
    (reader : Reader) (writer : Writer) :
    (m.start reader writer).Traced m.program [] m.program (m.start reader writer) where
  toReady := ready_start fits htape reader writer
  plain := fun _ hmem => absurd hmem (Array.not_mem_empty _)
  entries := fun _ => rfl
  answered := nofun
  awaited := nofun

namespace Traced

/-- Where no `[` is next, the last report is no return. -/
theorem not_awaiting (h : start.Traced program front back r) (hback : ∀ rest, back ≠ '[' :: rest)
    (s : Nat) : r.log.back? ≠ some (.loopRewind s) := by
  intro hlast
  obtain ⟨-, ⟨rest, hrest⟩, -⟩ := h.awaited s hlast
  exact hback rest hrest

/-- What is reported about a loop is nothing about the end. -/
theorem plain_push (h : start.Traced program front back r) {event : MachineEvent}
    (hlevel : event.record.level = .trace) :
    ∀ event' ∈ r.log.push event, event'.record.level = .trace := by
  intro event' hmem
  rcases Array.mem_push.mp hmem with hold | rfl
  · exact h.plain event' hold
  · exact hlevel

/-- With one more report all returns before it are answered, if the last one is. -/
theorem answered_push (h : start.Traced program front back r) {event : MachineEvent}
    (hlast : ∀ s, r.log.back? = some (.loopRewind s) →
      ∃ skip, event = .loopStart s skip ∧ start.Retests r.log.size s skip) (k s : Nat)
    (hk : (r.log.push event)[k]? = some (.loopRewind s))
    (hlt : k + 1 < (r.log.push event).size) :
    ∃ skip, (r.log.push event)[k + 1]? = some (.loopStart s skip) ∧
      start.Retests (k + 1) s skip := by
  rw [Array.size_push] at hlt
  rw [Array.getElem?_push, if_neg (by omega)] at hk
  rcases Nat.lt_or_eq_of_le (Nat.le_of_lt_succ hlt) with hold | hnew
  · obtain ⟨skip, hskip, htests⟩ := h.answered k s hk hold
    exact ⟨skip, by rw [Array.getElem?_push, if_neg (by omega), hskip], htests⟩
  · have hback : r.log.back? = some (.loopRewind s) := by
      rw [Array.back?_eq_getElem?, ← hnew, Nat.add_sub_cancel, hk]
    obtain ⟨skip, rfl, htests⟩ := hlast s hback
    exact ⟨skip, by rw [hnew, Array.getElem?_push, if_pos rfl], hnew ▸ htests⟩

/-- A `[` answers the return to it: it is skipped for its own cell, not for a loop around it. -/
theorem entered (h : start.Traced program front ('[' :: rest) r)
    (hrun : start.runFor rounds = .ok (.running r))
    (hready : (r.opened front.width).Ready program (front ++ ['[']) rest) :
    start.Traced program (front ++ ['[']) rest (r.opened front.width) where
  toReady := hready
  plain := h.plain_push rfl
  entries := by
    intro s
    show (r.log.push (.loopStart front.width r.skips)).count _
      = (r.log.push _).count _ + (⟨front.width, r.skips⟩ :: r.machine.loops).count _
    rw [Array.count_push, Array.count_push, List.count_cons, h.entries]
    simp only [beq_iff_eq, MachineEvent.loopStart.injEq, OpenLoop.mk.injEq, reduceCtorEq, if_false]
    omega
  answered := by
    refine h.answered_push fun s hlast => ?_
    obtain ⟨rfl, -, hskipping⟩ := h.awaited s hlast
    refine ⟨r.skips, rfl, rounds, r, _, hrun, rfl, h.between.offset_eq,
      h.execute_of_step h.toReady.step_open, rfl, ?_⟩
    rw [skips, hskipping, h.tape.current_eq, Bool.false_or, beq_iff_eq, Except.ok.injEq]
  awaited := by
    intro s hlast
    rw [show (r.opened front.width).log = r.log.push _ from rfl, Array.back?_push] at hlast
    cases hlast

/-- A return is awaited at its `[`, around which nothing is skipped. -/
theorem returned {before body : Text} {loops : List OpenLoop}
    (h : start.Traced program front (']' :: rest) r) (hskips : r.SkipsInside)
    (hloops : r.machine.loops = ⟨before.width, false⟩ :: loops)
    (hready : (r.rewound before.width loops).Ready program before ('[' :: (body ++ ']' :: rest))) :
    start.Traced program before ('[' :: (body ++ ']' :: rest)) (r.rewound before.width loops) where
  toReady := hready
  plain := h.plain_push rfl
  entries := by
    intro s
    have hentries := h.entries s
    rw [hloops, List.count_cons] at hentries
    show (r.log.push (.loopRewind before.width)).count _
      = (r.log.push (.loopRewind before.width)).count _ + loops.count _
    rw [Array.count_push, Array.count_push, hentries]
    simp only [beq_iff_eq, MachineEvent.loopRewind.injEq, OpenLoop.mk.injEq, and_true, reduceCtorEq,
      if_false]
    omega
  answered := by
    refine h.answered_push fun s hlast => ?_
    exact absurd hlast (h.not_awaiting (by simp) s)
  awaited := by
    intro s hlast
    rw [show (r.rewound before.width loops).log = r.log.push _ from rfl, Array.back?_push] at hlast
    obtain rfl := MachineEvent.loopRewind.inj (Option.some.inj hlast)
    exact ⟨rfl, ⟨_, rfl⟩, hskips.isSkipping_rewound hloops rfl _⟩

/-- Where nothing is reported, the log tells what it has told. -/
theorem nothing {front' back' : Text} (h : start.Traced program front back r)
    (hback : ∀ rest, back ≠ '[' :: rest) (hlog : r'.log = r.log)
    (hloops : ∀ s, r'.machine.loops.count ⟨s, false⟩ = r.machine.loops.count ⟨s, false⟩)
    (hready : r'.Ready program front' back') : start.Traced program front' back' r' where
  toReady := hready
  plain := by
    rw [hlog]
    exact h.plain
  entries := by
    intro s
    rw [hlog, hloops s]
    exact h.entries s
  answered := by
    rw [hlog]
    exact h.answered
  awaited := by
    intro s hlast
    rw [hlog] at hlast
    exact absurd hlast (h.not_awaiting hback s)

end Traced

/-! ## At the end of a run -/

/-- What the log of a run tells when the run is over. -/
inductive Told (start : Run) (program : Text) : Except MachineError Unit → Run → Prop
  /-- A `]` had no `[`. -/
  | stray {front rest : Text} {r : Run} (h : start.Traced program front (']' :: rest) r)
      (hstops : start.Stops (some (.unmatchedLoopEnd front.width)) (r.strayed front.width)) :
      Told start program (.error (.unmatchedLoopEnd front.width)) (r.strayed front.width)
  /-- An instruction failed. -/
  | failed {front back : Text} {r : Run} {failure : IoFailure}
      (h : start.Traced program front back r) (hlast : ∀ s, r.log.back? ≠ some (.loopRewind s))
      (hstops : start.Stops (some (.io failure)) r) : Told start program (.error (.io failure)) r
  /-- The text has ended. -/
  | reached {r : Run} (h : start.Traced program program [] r) (hstops : start.Stops none r) :
      Told start program r.world.flushed.1 r.ended

/-- What a traced run comes to: it stays one, or its log tells how it has ended. -/
def KeepsTrace (start : Run) (program : Text) : Outcome → Prop :=
  Outcome.Satisfies (fun r => ∃ front back, start.Traced program front back r)
    (Told start program)

/-- A traced run goes on, or its text has ended. -/
theorem Traced.settle {last : Run} (h : start.Traced program front back r)
    (hrun : start.runFor rounds = .ok (.running last)) (hexecute : last.execute = .ok (none, r)) :
    start.KeepsTrace program r.settle := by
  cases back with
  | cons d back =>
      rw [settle_running h.between]
      exact ⟨front, d :: back, h⟩
  | nil =>
      rw [settle_end h.between]
      obtain rfl : program = front := by rw [h.text_eq, List.append_nil]
      exact .reached h ⟨rounds, last, hrun, hexecute, fun _ => h.between.atEnd_iff.mpr rfl⟩

/-- A round keeps the trace. -/
theorem Traced.round_ok (h : start.Traced program front back r)
    (hrun : start.runFor rounds = .ok (.running r)) (hskips : r.SkipsInside) :
    ∃ o, r.round = .ok o ∧ start.KeepsTrace program o := by
  obtain ⟨failure, r', hexecute, hnoted⟩ := h.toReady.exists_noted
  refine ⟨_, round_of_execute hexecute, ?_⟩
  cases hnoted with
  | entered hback hready =>
      subst hback
      exact (h.entered hrun hready).settle hrun hexecute
  | returned hback hloops hready =>
      subst hback
      exact (h.returned hskips hloops hready).settle hrun hexecute
  | stray hback =>
      subst hback
      exact .stray h ⟨rounds, r, hrun, hexecute, nofun⟩
  | nothing hback hfailure hlog hloops hready =>
      have htraced := h.nothing hback hlog hloops hready
      match failure with
      | none => exact htraced.settle hrun hexecute
      | some (.unmatchedLoopEnd offset) => exact absurd rfl (hfailure offset)
      | some (.io failure) =>
          refine .failed htraced ?_ ⟨rounds, r, hrun, hexecute, nofun⟩
          rw [hlog]
          exact h.not_awaiting hback

/-- **A run is traced until it ends**, and then its log tells how. -/
theorem runFor_keepsTrace (hstart : start.Intact program setup) (hloops : start.machine.loops = [])
    (htraced : ∃ front back, start.Traced program front back start) (rounds : Nat) :
    ∃ o, start.runFor rounds = .ok o ∧ start.KeepsTrace program o := by
  induction rounds with
  | zero => exact ⟨.running start, rfl, htraced⟩
  | succ rounds ih =>
      obtain ⟨o, hrun, hkeeps⟩ := ih
      cases o with
      | finished result r => exact ⟨.finished result r, runFor_add hrun 1, hkeeps⟩
      | running r =>
          obtain ⟨front, back, h⟩ := hkeeps
          obtain ⟨o, hok, htracks⟩ := runFor_tracks hstart hloops rounds
          obtain rfl := Except.ok.inj (hrun.symm.trans hok)
          obtain ⟨o, hround, hkeeps⟩ := h.round_ok hrun htracks.2.1
          exact ⟨o, runFor_next hrun hround, hkeeps⟩

/-- The loops that are open in a run are different ones. -/
theorem Ready.nodup_loops (h : r.Ready program front back) : r.machine.loops.Nodup := by
  refine List.Nodup.of_map OpenLoop.start ?_
  rw [h.starts]
  exact List.pairwise_map.mpr ((Text.pairwise_openings front).imp fun h => (Nat.ne_of_lt h).symm)

/-- As long as a run has not stopped, nothing is reported about its end. -/
theorem Traced.not_mem_of_debug (h : start.Traced program front back r) {event : MachineEvent}
    (hlevel : event.record.level = .debug) : event ∉ r.log := by
  intro hmem
  exact nomatch (h.plain event hmem).symm.trans hlevel

namespace Told

variable {result : Except MachineError Unit}

/-- A run that is over has reported what it had when it stopped, with its last return answered, and
    at most one thing more, which is about its end. -/
theorem exists_traced (h : start.Told program result r) :
    ∃ s front back, start.Traced program front back s ∧ (∀ k, s.log.back? ≠ some (.loopRewind k)) ∧
      r.machine.loops = s.machine.loops ∧
      (r.log = s.log ∨ ∃ event, event.record.level = .debug ∧ r.log = s.log.push event) := by
  cases h with
  | stray h hstops =>
      exact ⟨_, _, _, h, h.not_awaiting (by simp), rfl, .inr ⟨_, rfl, rfl⟩⟩
  | failed h hlast hstops => exact ⟨_, _, _, h, hlast, rfl, .inl rfl⟩
  | @reached s h hstops =>
      refine ⟨s, _, _, h, h.not_awaiting nofun, by rw [machine_ended], ?_⟩
      rw [log_ended]
      split
      · exact .inl rfl
      · exact .inr ⟨_, rfl, rfl⟩

/-- Each return is followed by another test of its `[`. -/
theorem answered (h : start.Told program result r) {k s : Nat}
    (hk : r.log[k]? = some (.loopRewind s)) :
    ∃ skip, r.log[k + 1]? = some (.loopStart s skip) ∧ start.Retests (k + 1) s skip := by
  obtain ⟨q, front, back, htraced, hlast, -, hlog⟩ := h.exists_traced
  have hq : q.log[k]? = some (.loopRewind s) := by
    rcases hlog with hsame | ⟨event, hlevel, hpush⟩
    · rwa [hsame] at hk
    · rw [hpush, Array.getElem?_push] at hk
      split at hk
      · obtain rfl := Option.some.inj hk
        exact nomatch hlevel
      · exact hk
  obtain ⟨hlt, -⟩ := Array.getElem?_eq_some_iff.mp hq
  have hmore : k + 1 < q.log.size := by
    refine Nat.lt_of_le_of_ne hlt fun hend => hlast s ?_
    rw [Array.back?_eq_getElem?, ← hend, Nat.add_sub_cancel, hq]
  obtain ⟨skip, hskip, htests⟩ := htraced.answered k s hq hmore
  refine ⟨skip, ?_, htests⟩
  rcases hlog with hsame | ⟨event, hlevel, hpush⟩
  · rw [hsame, hskip]
  · rw [hpush, Array.getElem?_push, if_neg (by omega), hskip]

/-- Each entry is followed by a return, or its loop is still open. -/
theorem entries (h : start.Told program result r) (s : Nat) :
    r.log.count (.loopStart s false)
      = r.log.count (.loopRewind s) + if ⟨s, false⟩ ∈ r.machine.loops then 1 else 0 := by
  obtain ⟨q, front, back, htraced, -, hloops, hlog⟩ := h.exists_traced
  rw [hloops, ← htraced.nodup_loops.count]
  rcases hlog with hsame | ⟨event, hlevel, hpush⟩
  · rw [hsame, htraced.entries]
  · have hentry : event ≠ .loopStart s false := by
      rintro rfl
      exact nomatch hlevel
    have hreturn : event ≠ .loopRewind s := by
      rintro rfl
      exact nomatch hlevel
    rw [hpush, Array.count_push_of_ne hentry, Array.count_push_of_ne hreturn, htraced.entries]

/-- What points at a mistake is reported last. -/
theorem debug_last (h : start.Told program result r) {k : Nat} {event : MachineEvent}
    (hk : r.log[k]? = some event) (hlevel : event.record.level = .debug) :
    k + 1 = r.log.size := by
  obtain ⟨q, front, back, htraced, -, -, hlog⟩ := h.exists_traced
  rcases hlog with hsame | ⟨event', -, hpush⟩
  · rw [hsame] at hk
    exact absurd (Array.mem_of_getElem? hk) (htraced.not_mem_of_debug hlevel)
  · rw [hpush, Array.getElem?_push] at hk
    split at hk
    · rename_i hsize
      rw [hpush, Array.size_push, hsize]
    · exact absurd (Array.mem_of_getElem? hk) (htraced.not_mem_of_debug hlevel)

/-- A `]` without a `[` is reported exactly if the run fails for it. -/
theorem unmatchedEnd_mem_iff (h : start.Told program result r) (offset : Nat) :
    .unmatchedEnd offset ∈ r.log ↔ result = .error (.unmatchedLoopEnd offset) := by
  have hnone : ∀ {s : Run} {front back : Text}, start.Traced program front back s →
      .unmatchedEnd offset ∉ s.log := fun htraced => htraced.not_mem_of_debug rfl
  cases h with
  | @stray front rest s h hstops =>
      show _ ∈ s.log.push _ ↔ _
      simp [hnone h, eq_comm]
  | failed h hlast hstops => simp [hnone h]
  | @reached s h hstops =>
      have hresult : s.world.flushed.1 ≠ .error (.unmatchedLoopEnd offset) := by
        rw [flushed_eq_flushResult]
        cases s.writer.flushFailure <;> exact nofun
      rw [log_ended]
      split <;> simp [hnone h, hresult]

/-- Open loops are reported exactly if there are some where the text has ended. -/
theorem endedInside_mem_iff (h : start.Told program result r) :
    (∃ count, .endedInside count ∈ r.log) ↔
      ∃ r', start.Stops none r' ∧ r'.machine.loops ≠ [] := by
  -- a run that has failed has not come to the end of its text
  have hfailed : ∀ {error : MachineError} {s : Run}, start.Stops (some error) s →
      ¬ ∃ r', start.Stops none r' ∧ r'.machine.loops ≠ [] := by
    rintro error s hstops ⟨r', hreached, -⟩
    exact nomatch (hstops.unique hreached).1
  cases h with
  | @stray front rest s h hstops =>
      refine iff_of_false ?_ (hfailed hstops)
      rintro ⟨count, hmem⟩
      rcases Array.mem_push.mp hmem with hold | hnew
      · exact h.not_mem_of_debug rfl hold
      · exact nomatch hnew
  | failed h hlast hstops =>
      refine iff_of_false ?_ (hfailed hstops)
      rintro ⟨count, hmem⟩
      exact h.not_mem_of_debug rfl hmem
  | @reached s h hstops =>
      have hreached : (∃ r', start.Stops none r' ∧ r'.machine.loops ≠ []) ↔
          s.machine.loops ≠ [] := by
        constructor
        · rintro ⟨r', hreached, hloops⟩
          obtain ⟨-, rfl⟩ := hstops.unique hreached
          exact hloops
        · exact fun hloops => ⟨s, hstops, hloops⟩
      rw [hreached, log_ended]
      cases hloops : s.machine.loops with
      | nil =>
          refine iff_of_false ?_ (fun hne => hne rfl)
          rintro ⟨count, hmem⟩
          exact h.not_mem_of_debug rfl hmem
      | cons innermost loops => exact iff_of_true ⟨_, Array.mem_push_self⟩ (List.cons_ne_nil _ _)

/-- A run that succeeds has left all loops of a program whose brackets match. -/
theorem loops_eq_nil (h : start.Told program result r) (hresult : result = .ok ())
    (hbalanced : program.Balanced) : r.machine.loops = [] := by
  cases h with
  | stray h hstops => exact nomatch hresult
  | failed h hlast hstops => exact nomatch hresult
  | @reached s h hstops =>
      rw [machine_ended]
      exact h.loops_eq_nil hbalanced.openings_eq_nil

end Told

end Run

namespace Machine

variable {m : Machine} {reader : Reader} {writer : Writer} {rounds : Nat}
  {result : Except MachineError Unit} {r : Run}

/-- **THE LOG TRACES THE LOOPS** of every run that ends, whatever its result.  Each return to a `[`
    is followed by another test of it, which goes by the current cell.  Entries and returns are as
    many, but for the executing loops that are still open; if the brackets of the program match
    and the run succeeds, there are none.  What points at a mistake comes last: a `]` without a
    `[` if the run fails for one, and open loops if there are some where its text has ended, even
    if the flush fails then. -/
theorem log_traces_loops (fits : m.program.width < wordLimit) (htape : m.tape.Valid)
    (hrun : (m.start reader writer).runFor rounds = .ok (.finished result r)) :
    (∀ k s, r.log[k]? = some (.loopRewind s) → ∃ skip, r.log[k + 1]? = some (.loopStart s skip) ∧
      (m.start reader writer).Retests (k + 1) s skip) ∧
    (∀ s, r.log.count (.loopStart s false)
      = r.log.count (.loopRewind s) + if ⟨s, false⟩ ∈ r.machine.loops then 1 else 0) ∧
    (result = .ok () → m.program.Balanced →
      ∀ s, r.log.count (.loopStart s false) = r.log.count (.loopRewind s)) ∧
    (∀ k event, r.log[k]? = some event → event.record.level = .debug → k + 1 = r.log.size) ∧
    (∀ offset, .unmatchedEnd offset ∈ r.log ↔ result = .error (.unmatchedLoopEnd offset)) ∧
    ((∃ count, .endedInside count ∈ r.log) ↔
      ∃ r', (m.start reader writer).Stops none r' ∧ r'.machine.loops ≠ []) := by
  have hstart := Run.intact_start htape fits reader writer
  obtain ⟨o, hok, hkeeps⟩ :=
    Run.runFor_keepsTrace hstart rfl ⟨_, _, Run.traced_start fits htape reader writer⟩ rounds
  obtain rfl := Except.ok.inj (hrun.symm.trans hok)
  have htold : (m.start reader writer).Told m.program result r := hkeeps
  refine ⟨fun k s => htold.answered, htold.entries, fun hresult hbalanced s => ?_,
    fun k event => htold.debug_last, htold.unmatchedEnd_mem_iff, htold.endedInside_mem_iff⟩
  rw [htold.entries, htold.loops_eq_nil hresult hbalanced, if_neg List.not_mem_nil, Nat.add_zero]

/-- A loop that is executed once, and one that is open when the text has ended and the flush
    fails. -/
theorem log_traces_loops_to_a_failing_flush :
    Text.width ['[', '-', ']', '+', '['] < wordLimit ∧ Tape.Valid ⟨#[1], 0⟩ ∧
      ∃ start r : Run,
        start = Machine.start ⟨['[', '-', ']', '+', '['], MachineSetup.standard, ⟨#[1], 0⟩, []⟩ ⟨[]⟩
          (.ofScript [] (some .writeZero)) ∧
        start.runFor 8 = .ok (.finished (.error (.io .writeZero)) r) ∧
        r.log = #[.loopStart 0 false, .loopRewind 0, .loopStart 0 true, .loopStart 4 false,
          .endedInside 1] ∧
        start.Retests 2 0 true ∧ r.machine.loops = [⟨4, false⟩] ∧
        ∃ r', start.Stops none r' ∧ r'.machine.loops ≠ [] := by
  have fits : Text.width ['[', '-', ']', '+', '['] < wordLimit := by decide
  have htape : Tape.Valid ⟨#[1], 0⟩ := ⟨by decide, by decide⟩
  let m : Machine := ⟨['[', '-', ']', '+', '['], MachineSetup.standard, ⟨#[1], 0⟩, []⟩
  let log : Array MachineEvent :=
    #[.loopStart 0 false, .loopRewind 0, .loopStart 0 true, .loopStart 4 false, .endedInside 1]
  have hrun : (m.start ⟨[]⟩ (.ofScript [] (some .writeZero))).runFor 8
      = .ok (.finished (.error (.io .writeZero)) ⟨{ m with loops := [⟨4, false⟩] },
        ⟨m.program, 5, none, Window.standard⟩, ⟨[]⟩, ⟨[], some .writeZero, #[], 1⟩, log⟩) := by
    decide +kernel
  obtain ⟨hanswered, -, -, -, -, hended⟩ := log_traces_loops (m := m) fits htape hrun
  obtain ⟨skip, hskip, htests⟩ := hanswered 1 0 rfl
  obtain rfl : true = skip := (MachineEvent.loopStart.inj (Option.some.inj hskip)).2
  exact ⟨fits, htape, _, _, rfl, hrun, rfl, htests, rfl,
    hended.mp ⟨1, Array.mem_of_getElem? (i := 4) rfl⟩⟩

end Machine

end TextCursor
