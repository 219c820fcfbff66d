import TextCursor.Proofs.Fates

/-! # What skipped loops leave alone

    A loop is skipped for one of two reasons: its cell was zero when its `[` was
    read, or a loop around it is skipped.  The machine looks at the innermost open
    loop only, which is enough because skipping is inherited: inside of a skipped
    loop everything is skipped.  `Run.SkipsInside` says so, together with what that
    is good for: nothing has been executed since the outermost skipped loop opened,
    so the current cell is still zero.

    That invariant speaks of one state.  What has happened since a `[` was read is
    a matter of the states before, and `Run.Since` speaks of those: each open loop
    remembers the state in which its `[` was read last, and if it is skipped, the
    world has not changed since then (`Run.Recalls`). -/

namespace TextCursor

namespace Run

variable {r r' : Run} {o : Outcome} {program front back : Text} {d : Char}
  {setup : MachineSetup}

/-! ## Skipping is inherited -/

/-- Inside of a skipped loop all loops are skipped, and the current cell is zero while the run
    skips. -/
structure SkipsInside (r : Run) : Prop where
  inherited : r.machine.loops.Pairwise fun inner outer => outer.skip = true → inner.skip = true
  zero : r.machine.isSkipping = true → r.machine.tape.cell = 0

/-- A run skips if any of its open loops is skipped. -/
theorem SkipsInside.isSkipping_of_mem (h : r.SkipsInside) {l : OpenLoop}
    (hl : l ∈ r.machine.loops) (hskip : l.skip = true) : r.machine.isSkipping = true := by
  have hinherited := h.inherited
  rw [Machine.isSkipping]
  cases hloops : r.machine.loops with
  | nil =>
      rw [hloops] at hl
      exact absurd hl List.not_mem_nil
  | cons innermost loops =>
      rw [hloops] at hl hinherited
      rcases List.mem_cons.mp hl with rfl | hmem
      · exact hskip
      · exact (List.pairwise_cons.mp hinherited).1 l hmem hskip

/-- What a run skips does not depend on how far it has read. -/
theorem SkipsInside.of_eq (h : r.SkipsInside) (hloops : r'.machine.loops = r.machine.loops)
    (htape : r.machine.isSkipping = true → r'.machine.tape = r.machine.tape) :
    r'.SkipsInside where
  inherited := by
    rw [hloops]
    exact h.inherited
  zero := by
    intro hskip
    have hskip' : r.machine.isSkipping = true := by
      rw [Machine.isSkipping, hloops] at hskip
      exact hskip
    rw [htape hskip']
    exact h.zero hskip'

/-- A loop that opens in a skipped one is skipped, and any other only for a zero. -/
theorem SkipsInside.opened (h : r.SkipsInside) (offset : Nat) : (r.opened offset).SkipsInside where
  inherited := by
    refine List.pairwise_cons.mpr ⟨?_, h.inherited⟩
    intro outer houter hskip
    show r.skips = true
    rw [skips, h.isSkipping_of_mem houter hskip, Bool.true_or]
  zero := by
    intro hskip
    replace hskip : (r.machine.isSkipping || r.machine.tape.cell == 0) = true := hskip
    rcases Bool.or_eq_true_iff.mp hskip with hskipping | hzero
    · exact h.zero hskipping
    · exact eq_of_beq hzero

/-- Behind a skipped loop the current cell is zero, whether or not the run skips on. -/
theorem SkipsInside.closed (h : r.SkipsInside) {innermost : OpenLoop} {loops : List OpenLoop}
    (hloops : r.machine.loops = innermost :: loops) (hskip : innermost.skip = true) :
    (r.closed loops).SkipsInside where
  inherited := by
    have hinherited := h.inherited
    rw [hloops] at hinherited
    exact (List.pairwise_cons.mp hinherited).2
  zero := fun _ => h.zero (h.isSkipping_of_mem (hloops ▸ List.mem_cons_self) hskip)

/-- Around an executed loop no loop is skipped. -/
theorem SkipsInside.isSkipping_rewound (h : r.SkipsInside) {innermost : OpenLoop}
    {loops : List OpenLoop} (hloops : r.machine.loops = innermost :: loops)
    (hskip : innermost.skip = false) (start : Nat) :
    (r.rewound start loops).machine.isSkipping = false := by
  have hinherited := h.inherited
  rw [hloops] at hinherited
  cases loops with
  | nil => rfl
  | cons outer loops =>
      show outer.skip = false
      refine Bool.eq_false_iff.mpr fun houter => ?_
      have hinnermost := (List.pairwise_cons.mp hinherited).1 outer List.mem_cons_self houter
      exact nomatch hskip.symm.trans hinnermost

/-- On the way back to a `[` the run leaves only executed loops open. -/
theorem SkipsInside.rewound (h : r.SkipsInside) {innermost : OpenLoop} {loops : List OpenLoop}
    (hloops : r.machine.loops = innermost :: loops) (hskip : innermost.skip = false)
    (start : Nat) : (r.rewound start loops).SkipsInside where
  inherited := by
    have hinherited := h.inherited
    rw [hloops] at hinherited
    exact (List.pairwise_cons.mp hinherited).2
  zero := fun hskipping =>
    nomatch (h.isSkipping_rewound hloops hskip start).symm.trans hskipping

theorem SkipsInside.settle (h : r.SkipsInside) : r.settle.run.SkipsInside :=
  h.of_eq (by rw [machine_settle]) fun _ => by rw [machine_settle]

/-- **What is skipped stays skipped**: every round keeps the invariant. -/
theorem Round.skipsInside (h : Round program front d back r o) (hskips : r.SkipsInside) :
    o.run.SkipsInside := by
  cases h with
  | opened hd hready => exact (hskips.opened _).settle
  | stray hd hnil hready => exact hskips.of_eq rfl fun _ => rfl
  | closed hd hloops hskip hready => exact (hskips.closed hloops hskip).settle
  | rewound hd hloops hskip hfront hbody hready => exact hskips.rewound hloops hskip _
  | skipped hopen hclose hskip hready =>
      have hpassed : (r.passed d).SkipsInside := hskips.of_eq rfl fun _ => rfl
      exact hpassed.settle
  | @acted w hopen hclose hskip hact hready =>
      have hacted : (r.acted d w).SkipsInside :=
        hskips.of_eq rfl fun hskipping => nomatch hskip.symm.trans hskipping
      exact hacted.settle
  | failed hopen hclose hskip hact hready =>
      exact hskips.of_eq rfl fun hskipping => nomatch hskip.symm.trans hskipping

/-! ## What has happened since -/

/-- In so many rounds a run has once been at a state, and all states since have a property. -/
def Since (start : Run) (rounds : Nat) (state : Run) (P : Run → Prop) : Prop :=
  ∃ k < rounds, start.runFor k = .ok (.running state) ∧
    ∀ j r, k < j → j ≤ rounds → start.runFor j = .ok (.running r) → P r

variable {start state : Run} {rounds : Nat} {P Q : Run → Prop} {l : OpenLoop}

/-- What was so up to now is so one round later if it is so then. -/
theorem Since.next (h : Since start rounds state P)
    (hrun : start.runFor (rounds + 1) = .ok (.running r)) (hr : P r) :
    Since start (rounds + 1) state P := by
  obtain ⟨k, hk, hstate, hsince⟩ := h
  refine ⟨k, Nat.lt_succ_of_lt hk, hstate, ?_⟩
  intro j r' hkj hj hrun'
  rcases Nat.lt_or_eq_of_le hj with hlt | rfl
  · exact hsince j r' hkj (Nat.le_of_lt_succ hlt) hrun'
  · obtain rfl := Outcome.running.inj (Except.ok.inj (hrun.symm.trans hrun'))
    exact hr

/-- What is the case one round behind a state has been so since. -/
theorem since_next (h : start.runFor rounds = .ok (.running state))
    (hrun : start.runFor (rounds + 1) = .ok (.running r)) (hr : P r) :
    Since start (rounds + 1) state P := by
  refine ⟨rounds, Nat.lt_succ_self _, h, ?_⟩
  intro j r' hlt hle hrun'
  obtain rfl : j = rounds + 1 := by omega
  obtain rfl := Outcome.running.inj (Except.ok.inj (hrun.symm.trans hrun'))
  exact hr

/-- What has been so since a state is so now. -/
theorem Since.now (h : Since start rounds state P) (hrun : start.runFor rounds = .ok (.running r)) :
    P r := by
  obtain ⟨k, hk, -, hsince⟩ := h
  exact hsince rounds r hk (Nat.le_refl _) hrun

/-- What follows from it has been so since that state too. -/
theorem Since.imp (h : Since start rounds state P) (himp : ∀ r, P r → Q r) :
    Since start rounds state Q := by
  obtain ⟨k, hk, hstate, hsince⟩ := h
  exact ⟨k, hk, hstate, fun j r hkj hj hrun => himp r (hsince j r hkj hj hrun)⟩

/-- A run recalls an open loop: it has been at the `[`, and since then always behind it, and in the
    same world if the loop is skipped. -/
def Recalls (start : Run) (rounds : Nat) (l : OpenLoop) : Prop :=
  ∃ opening, opening.cursor.offset = l.start ∧ Since start rounds opening fun r =>
    l.start < r.cursor.offset ∧ (l.skip = true → r.world = opening.world)

/-- Every open loop began before the cursor. -/
theorem Ready.start_lt (h : r.Ready program front back) (hl : l ∈ r.machine.loops) :
    l.start < r.cursor.offset := by
  have hmem : l.start ∈ r.machine.loops.map OpenLoop.start := List.mem_map_of_mem hl
  rw [h.starts] at hmem
  obtain ⟨before, hopen, hstart⟩ := List.mem_map.mp hmem
  obtain ⟨body, rfl⟩ := Text.exists_of_mem_openings hopen
  rw [h.between.offset_eq, ← hstart, Text.width_append, Text.width_cons]
  have hone : Char.utf8Size '[' = 1 := rfl
  omega

/-- A loop that is open behind a round has been opened by it, or was open before.  While a loop is
    skipped a round changes nothing. -/
theorem Round.loops_cases (h : Round program front d back r (.running r')) (hskips : r.SkipsInside)
    (hl : l ∈ r'.machine.loops) :
    (l.start = front.width ∧ r'.world = r.world) ∨
      (l ∈ r.machine.loops ∧ (l.skip = true → r'.world = r.world)) := by
  -- a run that goes on has not been changed by the end of its round
  have hsettle : ∀ {s : Run}, s.settle = .running r' → s = r' :=
    fun hs => (settle_eq_running_iff.mp hs).2
  generalize ho : Outcome.running r' = o at h
  cases h with
  | opened hd hready =>
      obtain rfl := hsettle ho.symm
      rcases List.mem_cons.mp hl with rfl | hold
      · exact .inl ⟨rfl, rfl⟩
      · exact .inr ⟨hold, fun _ => rfl⟩
  | stray hd hnil hready => exact nomatch ho
  | closed hd hloops hskip hready =>
      obtain rfl := hsettle ho.symm
      refine .inr ⟨?_, fun _ => rfl⟩
      rw [hloops]
      exact List.mem_cons_of_mem _ hl
  | rewound hd hloops hskip hfront hbody hready =>
      obtain rfl := Outcome.running.inj ho
      refine .inr ⟨?_, fun _ => rfl⟩
      rw [hloops]
      exact List.mem_cons_of_mem _ hl
  | skipped hopen hclose hskip hready =>
      obtain rfl := hsettle ho.symm
      exact .inr ⟨hl, fun _ => rfl⟩
  | acted hopen hclose hskip hact hready =>
      obtain rfl := hsettle ho.symm
      -- an instruction acts in no skipped loop, not in an outer one either
      refine .inr ⟨hl, fun hskipped => ?_⟩
      exact nomatch hskip.symm.trans (hskips.isSkipping_of_mem hl hskipped)
  | failed hopen hclose hskip hact hready => exact nomatch ho

/-! ## All rounds -/

/-- What is known about a run after so many rounds. -/
def Tracks (program : Text) (setup : MachineSetup) (start : Run) (rounds : Nat) : Outcome → Prop :=
  Outcome.Satisfies
    (fun r => r.Intact program setup ∧ r.SkipsInside ∧
      ∀ l ∈ r.machine.loops, start.Recalls rounds l)
    (fun _ r => r.Intact program setup ∧ r.SkipsInside)

/-- A run that has begun outside of all loops can be tracked for ever. -/
theorem runFor_tracks (hstart : start.Intact program setup) (hloops : start.machine.loops = [])
    (rounds : Nat) : ∃ o, start.runFor rounds = .ok o ∧ Tracks program setup start rounds o := by
  induction rounds with
  | zero =>
      refine ⟨.running start, rfl, hstart, ⟨?_, ?_⟩, ?_⟩
      · rw [hloops]
        exact .nil
      · intro hskip
        rw [Machine.isSkipping, hloops] at hskip
        exact absurd hskip Bool.false_ne_true
      · rw [hloops]
        exact fun l hl => absurd hl List.not_mem_nil
  | succ rounds ih =>
      obtain ⟨o, hrun, htracks⟩ := ih
      cases o with
      | finished result r => exact ⟨.finished result r, runFor_add hrun 1, htracks⟩
      | running r =>
          obtain ⟨hintact, hskips, hrecalls⟩ := htracks
          obtain ⟨o, hround, hintact'⟩ := hintact.round_ok
          have hnext := runFor_next hrun hround
          obtain ⟨⟨front, back, hready⟩, hsetup⟩ := hintact
          refine ⟨o, hnext, ?_⟩
          cases back with
          | nil =>
              obtain rfl := Except.ok.inj (hready.round_end.symm.trans hround)
              have hskips' := hskips.settle
              rw [settle_end hready.between] at hintact' hskips' ⊢
              exact ⟨hintact', hskips'⟩
          | cons d back =>
              obtain ⟨o', hround', hcase⟩ := Run.round_ok hready
              obtain rfl := Except.ok.inj (hround.symm.trans hround')
              have hskips' := hcase.skipsInside hskips
              cases o with
              | finished result r' => exact ⟨hintact', hskips'⟩
              | running r' =>
                  refine ⟨hintact', hskips', fun l hl => ?_⟩
                  obtain ⟨front', back', hready'⟩ := hintact'.ready
                  have hlt : l.start < r'.cursor.offset := hready'.start_lt hl
                  -- a new loop recalls the state before this round, an old one what it did before
                  rcases hcase.loops_cases hskips hl with ⟨hnew, hworld⟩ | ⟨hold, hworld⟩
                  · refine ⟨r, ?_, since_next hrun hnext ⟨hlt, fun _ => hworld⟩⟩
                    rw [hready.between.offset_eq, hnew]
                  · obtain ⟨opening, hoffset, hsince⟩ := hrecalls l hold
                    refine ⟨opening, hoffset, hsince.next hnext ⟨hlt, fun hskip => ?_⟩⟩
                    rw [hworld hskip]
                    exact (hsince.now hrun).2 hskip

/-- A `]` that is passed, and is no stray one, is that of a skipped loop. -/
theorem Round.closed_of_passed (h : Round program front ']' back r o)
    (hpassed : o.run.cursor.offset = front.width + 1)
    (hmatched : ∀ offset r', o ≠ .finished (.error (.unmatchedLoopEnd offset)) r') :
    ∃ innermost loops, r.machine.loops = innermost :: loops ∧ innermost.skip = true ∧
      o = (r.closed loops).settle := by
  cases h with
  | opened hd hready' => exact absurd hd (by decide)
  | stray hd hnil hready' => exact absurd rfl (hmatched _ _)
  | closed hd hloops hskip hready' => exact ⟨_, _, hloops, hskip, rfl⟩
  | @rewound innermost loops before body hd hloops hskip hfront hbody hready' =>
      -- back at the `[` the cursor stands before the `]`
      replace hpassed : before.width = front.width + 1 := hpassed
      rw [hfront, Text.width_append] at hpassed
      omega
  | skipped hopen hclose hskip hready' => exact absurd rfl hclose
  | acted hopen hclose hskip hact hready' => exact absurd rfl hclose
  | failed hopen hclose hskip hact hready' => exact absurd rfl hclose

end Run

namespace Machine

variable {m : Machine}

/-- **SKIPPED LOOPS DO NOTHING**: in every state that a run reaches, inside of a skipped loop all
    loops are skipped, and while the innermost one is, the current cell is zero.  So it is zero
    whenever a run goes on behind a `]`, and then nothing has happened to the tape, the input and
    the output since the run was last at the `[` that belongs to it. -/
theorem skipped_loops_do_nothing (fits : m.program.width < wordLimit) (htape : m.tape.Valid)
    (reader : Reader) (writer : Writer) :
    (∀ rounds, ∃ o, (m.start reader writer).runFor rounds = .ok o ∧
      (o.run.machine.loops.Pairwise fun inner outer => outer.skip = true → inner.skip = true) ∧
      (o.run.machine.isSkipping = true → o.run.machine.tape.current = .ok 0)) ∧
    ∀ rounds r o front back, (m.start reader writer).runFor rounds = .ok (.running r) →
      m.program = front ++ ']' :: back → r.cursor.offset = front.width →
      r.round = .ok o → o.run.cursor.offset = front.width + 1 →
      (∀ offset r', o ≠ .finished (.error (.unmatchedLoopEnd offset)) r') →
      ∃ before body opening, front = before ++ '[' :: body ∧ Text.Balanced body ∧
        opening.cursor.offset = before.width ∧
        ((m.start reader writer).Since rounds opening fun r' =>
          before.width < r'.cursor.offset ∧ r'.world = opening.world) ∧
        o.run.machine.tape.current = .ok 0 ∧
        o.run.machine.tape = opening.machine.tape ∧ o.run.reader = opening.reader ∧
        o.run.writer.accepted = opening.writer.accepted := by
  have hstart := Run.intact_start htape fits reader writer
  constructor
  · intro rounds
    obtain ⟨o, hok, htracks⟩ := Run.runFor_tracks hstart rfl rounds
    have hkept : o.run.Intact m.program m.setup ∧ o.run.SkipsInside := by
      cases o with
      | running r => exact ⟨htracks.1, htracks.2.1⟩
      | finished result r => exact htracks
    obtain ⟨⟨⟨front, back, hready⟩, -⟩, hskips⟩ := hkept
    refine ⟨o, hok, hskips.inherited, fun hskipping => ?_⟩
    rw [hready.tape.current_eq, hskips.zero hskipping]
  · intro rounds r o front back hrun hprogram hoffset hround hpassed hmatched
    obtain ⟨o', hok, htracks⟩ := Run.runFor_tracks hstart rfl rounds
    obtain rfl := Except.ok.inj (hrun.symm.trans hok)
    obtain ⟨⟨⟨front', back', hready⟩, -⟩, hskips, hrecalls⟩ := htracks
    -- the run stands at the `]`, since there is one cut of the program at its offset
    have hcut : front' = front ∧ back' = ']' :: back := by
      refine Text.cut_unique (hready.text_eq.symm.trans hprogram) ?_
      rw [← hready.between.offset_eq, hoffset]
    obtain ⟨rfl, rfl⟩ := hcut
    obtain ⟨o', hround', hcase⟩ := Run.round_ok hready
    obtain rfl := Except.ok.inj (hround.symm.trans hround')
    obtain ⟨innermost, loops, hloops, hskip, rfl⟩ := hcase.closed_of_passed hpassed hmatched
    have hmem : innermost ∈ r.machine.loops := hloops ▸ List.mem_cons_self
    obtain ⟨before, body, hfront, hbody, hinnermost, -⟩ := hready.innermost_start hloops
    obtain ⟨opening, hopening, hsince⟩ := hrecalls innermost hmem
    rw [hinnermost] at hopening hsince
    have hworld : r.world = opening.world := (hsince.now hrun).2 hskip
    obtain ⟨htape', hreader, haccepted⟩ := (r.closed loops).settle_leaves
    refine ⟨before, body, opening, hfront, hbody, hopening, ?_, ?_, ?_, ?_, ?_⟩
    · exact hsince.imp fun r' h => ⟨h.1, h.2 hskip⟩
    · rw [htape']
      show r.machine.tape.current = .ok 0
      rw [hready.tape.current_eq, hskips.zero (hskips.isSkipping_of_mem hmem hskip)]
    · exact htape'.trans (congrArg World.tape hworld)
    · exact hreader.trans (congrArg World.reader hworld)
    · rw [haccepted]
      exact congrArg Writer.accepted (congrArg World.writer hworld)

/-- A loop around a character of two bytes, on a machine with two cells that points at the second
    one, which is zero: two rounds lead to its `]`, and the third one goes on behind it. -/
theorem skipped_loops_do_nothing_around_two_bytes :
    Text.width ['[', 'é', ']'] < wordLimit ∧ Tape.Valid ⟨#[7, 0], 1⟩ ∧
      ∃ start : Run,
        start = Machine.start ⟨['[', 'é', ']'], MachineSetup.standard, ⟨#[7, 0], 1⟩, []⟩
          (Reader.ofBytes [5]) .accepting ∧
      ∃ r o, start.runFor 2 = .ok (.running r) ∧ r.cursor.offset = Text.width ['[', 'é'] ∧
        r.round = .ok o ∧ o.run.cursor.offset = Text.width ['[', 'é'] + 1 ∧
        (∀ offset r', o ≠ .finished (.error (.unmatchedLoopEnd offset)) r') ∧
        ∃ (before body : Text) (opening : Run), ['[', 'é'] = before ++ '[' :: body ∧
          Text.Balanced body ∧ opening.cursor.offset = before.width ∧
          (start.Since 2 opening fun r' =>
            before.width < r'.cursor.offset ∧ r'.world = opening.world) ∧
          o.run.machine.tape.current = .ok 0 ∧
          o.run.machine.tape = opening.machine.tape ∧ o.run.reader = opening.reader ∧
          o.run.writer.accepted = opening.writer.accepted := by
  have fits : Text.width ['[', 'é', ']'] < wordLimit := by decide
  have htape : Tape.Valid ⟨#[7, 0], 1⟩ := ⟨by decide, by decide⟩
  let m : Machine := ⟨['[', 'é', ']'], MachineSetup.standard, ⟨#[7, 0], 1⟩, []⟩
  let start := m.start (Reader.ofBytes [5]) .accepting
  have hready : start.Ready ['[', 'é', ']'] [] ['[', 'é', ']'] :=
    Run.ready_start (m := m) fits htape _ _
  have hfirst := hready.round_open
  rw [Run.settle_running hready.opened.between] at hfirst
  have hsecond := hready.opened.round_skip (by decide) (by decide) rfl
  have hpassed := hready.opened.passed (by decide) (by decide)
  rw [Run.settle_running hpassed.between] at hsecond
  have hloops : ((start.opened 0).passed 'é').machine.loops = [⟨0, true⟩] := rfl
  have hthird := hpassed.round_close hloops rfl
  rw [Run.settle_end (hpassed.closed hloops).between] at hthird
  have hnone : start.runFor 0 = .ok (.running start) := rfl
  have htwo := Run.runFor_next (Run.runFor_next hnone hfirst) hsecond
  refine ⟨fits, htape, start, rfl, _, _, htwo, rfl, hthird, rfl, nofun, ?_⟩
  exact (skipped_loops_do_nothing (m := m) fits htape _ _).2 2 _ _ _ _ htwo rfl rfl hthird rfl nofun

end Machine

end TextCursor
