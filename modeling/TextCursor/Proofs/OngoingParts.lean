import TextCursor.Proofs.OngoingRuns

/-! # Parts of programs that go on

    A run that goes on for ever has no end that laws could be about.  It has the worlds
    that it covers: those in which no more is written and read than it writes and reads
    some time, `Machine.Covers`.  A jump machine covers worlds from a stage as its steps
    lead on (`JumpMachine.CoversBy`), and a run covers what its jump machine covers
    (`Machine.covers_iff_coversFrom`).

    The laws of parts of programs are those about ends once more.  The end of a program
    covers what it covers as a program of its own (`coversFrom_behind_iff`).  A balanced
    part covers what it covers alone, and once it is left the rest covers more
    (`coversFrom_block_iff`); sequences and loops are instances. -/

namespace TextCursor

namespace JumpMachine

variable {inputEnd : EndOfInput} {x z p q b : Text} {u v w : World} {m : JumpMachine}
  {step : JumpStage → JumpProgress} {s s' : JumpStage} {i : Nat}

/-! ## What steps cover -/

/-- Steps made from a stage come to where as much is written and read as in a world. -/
inductive CoversBy (step : JumpStage → JumpProgress) : JumpStage → World → Prop
  /-- As much was written and read before. -/
  | here {s : JumpStage} {v : World} (h : v.Before s.world) : CoversBy step s v
  /-- As much is written and read at the end. -/
  | stop {s : JumpStage} {result : Except MachineError Unit} {v w : World}
      (hstep : step s = .finished result w) (h : v.Before w) : CoversBy step s v
  | go {s s' : JumpStage} {v : World} (hstep : step s = .running s')
      (hrest : CoversBy step s' v) : CoversBy step s v

/-- A machine covers a world from a stage on. -/
abbrev CoversFrom (m : JumpMachine) : JumpStage → World → Prop :=
  CoversBy m.step

/-- What is less than a world that is covered is covered too. -/
theorem CoversBy.mono (h : CoversBy step s v) (hbefore : u.Before v) : CoversBy step s u := by
  induction h with
  | here h => exact .here (hbefore.trans h)
  | stop hstep h => exact .stop hstep (hbefore.trans h)
  | go hstep _ ih => exact .go hstep (ih hbefore)

/-- A machine covers a world when some number of steps leads as far. -/
theorem coversFrom_iff_iterate :
    m.CoversFrom s v ↔ ∃ steps, v.Before (m.next^[steps] (.running s)).world := by
  constructor
  · intro h
    induction h with
    | here h => exact ⟨0, h⟩
    | @stop s result v w hstep h =>
        refine ⟨1, ?_⟩
        show v.Before (m.step s).world
        rw [hstep]
        exact h
    | @go s s' v hstep _ ih =>
        obtain ⟨steps, hsteps⟩ := ih
        refine ⟨steps + 1, ?_⟩
        rw [Function.iterate_succ_apply]
        show v.Before (m.next^[steps] (m.step s)).world
        rw [hstep]
        exact hsteps
  · rintro ⟨steps, hsteps⟩
    induction steps generalizing s with
    | zero => exact .here hsteps
    | succ steps ih =>
        rw [Function.iterate_succ_apply] at hsteps
        replace hsteps : v.Before (m.next^[steps] (m.step s)).world := hsteps
        cases hstep : m.step s with
        | running s' =>
            rw [hstep] at hsteps
            exact .go hstep (ih hsteps)
        | finished result w =>
            rw [hstep, Function.iterate_fixed rfl] at hsteps
            exact .stop hstep hsteps

/-- Steps lead on. -/
theorem before_step (s : JumpStage) : s.world.Before ((ofProgram p inputEnd).step s).world := by
  obtain ⟨i, w⟩ := s
  rcases Nat.lt_or_ge i p.length with hi | hi
  · obtain ⟨front, c, back, rfl, rfl⟩ := exists_place hi
    exact (step_at inputEnd front c back w).keeps (P := fun u => w.Before u)
      (fun c u h => h.trans (u.before_act inputEnd c)) (.refl w)
  · rw [step_of_length_le hi]
    exact w.before_flushed

/-- Behind a step a machine covers what it covered before it. -/
theorem coversFrom_iff_of_running (hstep : (ofProgram p inputEnd).step s = .running s') :
    (ofProgram p inputEnd).CoversFrom s v ↔ (ofProgram p inputEnd).CoversFrom s' v := by
  constructor
  · intro h
    cases h with
    | here h =>
        have hleads : s.world.Before ((ofProgram p inputEnd).step s).world := before_step s
        rw [hstep] at hleads
        exact .here (h.trans hleads)
    | stop hstop h =>
        rw [hstep] at hstop
        cases hstop
    | go hgo hrest =>
        rw [hstep] at hgo
        obtain rfl := JumpProgress.running.inj hgo
        exact hrest
  · exact .go hstep

/-- Where steps are other steps moved, in worlds that are changed, what they cover is changed. -/
theorem coversBy_map_iff {step' : JumpStage → JumpProgress} {move : JumpStage → JumpStage}
    {tell : Except MachineError Unit → Except MachineError Unit} {change : World → World}
    (hstep : ∀ s, step' (move s) = (step s).map move tell change)
    (hmove : ∀ s, (move s).world = change s.world)
    (hmono : ∀ {u w : World}, u.Before w → (change u).Before (change w)) :
    CoversBy step' (move s) v ↔ ∃ u, CoversBy step s u ∧ v.Before (change u) := by
  constructor
  · intro h
    generalize hs : move s = s' at h
    induction h generalizing s with
    | here h =>
        rw [← hs, hmove] at h
        exact ⟨s.world, .here (.refl _), h⟩
    | stop hstop h =>
        rw [← hs, hstep] at hstop
        cases hprogress : step s with
        | running t =>
            rw [hprogress] at hstop
            cases hstop
        | finished result w =>
            rw [hprogress] at hstop
            obtain ⟨-, rfl⟩ := JumpProgress.finished.inj hstop
            exact ⟨w, .stop hprogress (.refl _), h⟩
    | go hgo _ ih =>
        rw [← hs, hstep] at hgo
        cases hprogress : step s with
        | running t =>
            rw [hprogress] at hgo
            obtain ⟨u, hcovers, hbefore⟩ := ih (JumpProgress.running.inj hgo)
            exact ⟨u, .go hprogress hcovers, hbefore⟩
        | finished result w =>
            rw [hprogress] at hgo
            cases hgo
  · rintro ⟨u, h, hbefore⟩
    refine CoversBy.mono ?_ hbefore
    clear hbefore
    induction h with
    | @here s u h =>
        refine .here ?_
        rw [hmove]
        exact hmono h
    | @stop s result u w hstop h =>
        have hstop' : step' (move s) = .finished (tell result) (change w) := by
          rw [hstep, hstop]
          rfl
        exact .stop hstop' (hmono h)
    | @go s t u hgo _ ih =>
        have hgo' : step' (move s) = .running (move t) := by
          rw [hstep, hgo]
          rfl
        exact .go hgo' ih

/-! ## Parts of programs -/

/-- A machine covers a world from a stage up to the end of its program. -/
abbrev CoversInside (m : JumpMachine) : JumpStage → World → Prop :=
  CoversBy m.stepInside

/-- The flush at the end writes and reads nothing, so up to there everything is covered. -/
theorem coversInside_iff :
    (ofProgram p inputEnd).CoversInside s v ↔ (ofProgram p inputEnd).CoversFrom s v := by
  constructor
  · intro h
    induction h with
    | here h => exact .here h
    | @stop s result v w hstop h =>
        rcases Nat.lt_or_ge s.index p.length with hi | hi
        · exact .stop ((stepInside_of_lt hi).symm.trans hstop) h
        · obtain ⟨-, rfl⟩ := JumpProgress.finished.inj ((stepInside_of_le hi).symm.trans hstop)
          exact .here h
    | @go s s' v hgo _ ih =>
        rcases Nat.lt_or_ge s.index p.length with hi | hi
        · exact .go ((stepInside_of_lt hi).symm.trans hgo) ih
        · cases (stepInside_of_le hi).symm.trans hgo
  · intro h
    induction h with
    | here h => exact .here h
    | @stop s result v w hstop h =>
        rcases Nat.lt_or_ge s.index p.length with hi | hi
        · exact .stop ((stepInside_of_lt hi).trans hstop) h
        · have hend : (ofProgram p inputEnd).step s = _ := step_of_length_le hi s.world
          obtain ⟨-, rfl⟩ := JumpProgress.finished.inj (hend.symm.trans hstop)
          exact .here (h.trans s.world.flushed_before)
    | @go s s' v hgo _ ih =>
        rcases Nat.lt_or_ge s.index p.length with hi | hi
        · exact .go ((stepInside_of_lt hi).trans hgo) ih
        · cases (step_of_length_le hi s.world).symm.trans hgo

/-- The end of a program covers what it covers as a program of its own, when all brackets before it
    match. -/
theorem coversFrom_behind_iff (hx : Text.openings x = []) :
    (ofProgram (x ++ q) inputEnd).CoversFrom (s.behind x) v ↔
      (ofProgram q inputEnd).CoversFrom s v := by
  rw [CoversFrom, coversBy_map_iff (step_of_behind hx) (fun _ => rfl) fun h => h]
  constructor
  · rintro ⟨u, h, hbefore⟩
    exact h.mono hbefore
  · intro h
    exact ⟨v, h, .refl v⟩

/-- What a balanced part covers alone, it covers in the whole program. -/
theorem CoversBy.coversFrom (hp : Text.Balanced p) :
    ∀ {s : JumpStage}, (ofProgram p inputEnd).CoversInside s v → s.index ≤ p.length →
      (ofProgram (x ++ (p ++ z)) inputEnd).CoversFrom (s.behind x) v := by
  intro s h
  induction h with
  | here h => exact fun _ => .here h
  | @stop s result v w hstop h =>
      intro hi
      obtain ⟨i, w'⟩ := s
      rcases stepInside_cases (x := x) (z := z) hp hi w' with
        ⟨-, hend⟩ | ⟨j, u, -, hin, -⟩ | ⟨failure, u, hin, hout⟩
      · obtain ⟨-, rfl⟩ := JumpProgress.finished.inj (hend.symm.trans hstop)
        exact .here h
      · cases hin.symm.trans hstop
      · obtain ⟨-, rfl⟩ := JumpProgress.finished.inj (hin.symm.trans hstop)
        exact .stop hout h
  | @go s s' v hgo _ ih =>
      intro hi
      obtain ⟨i, w'⟩ := s
      rcases stepInside_cases (x := x) (z := z) hp hi w' with
        ⟨-, hend⟩ | ⟨j, u, hj, hin, hout⟩ | ⟨failure, u, hin, -⟩
      · cases hend.symm.trans hgo
      · obtain rfl := JumpProgress.running.inj (hin.symm.trans hgo)
        exact .go hout (ih hj)
      · cases hin.symm.trans hgo

/-- What is covered behind a balanced part is covered from inside of it, if the part is left. -/
theorem LeavesFrom.coversFrom (hp : Text.Balanced p) :
    ∀ {s : JumpStage} {outcome : Except MachineError Unit},
      (ofProgram p inputEnd).LeavesFrom s outcome u → outcome = .ok () → s.index ≤ p.length →
      (ofProgram (x ++ (p ++ z)) inputEnd).CoversFrom ⟨x.length + p.length, u⟩ v →
        (ofProgram (x ++ (p ++ z)) inputEnd).CoversFrom (s.behind x) v := by
  intro s outcome h
  induction h with
  | @stop s result w hstop =>
      rintro rfl hi hrest
      obtain ⟨i, w'⟩ := s
      rcases stepInside_cases (x := x) (z := z) hp hi w' with
        ⟨rfl, hend⟩ | ⟨j, u, -, hin, -⟩ | ⟨failure, u, hin, -⟩
      · obtain ⟨-, rfl⟩ := JumpProgress.finished.inj (hend.symm.trans hstop)
        exact hrest
      · cases hin.symm.trans hstop
      · cases hin.symm.trans hstop
  | @go s s' result w hgo _ ih =>
      intro hok hi hrest
      obtain ⟨i, w'⟩ := s
      rcases stepInside_cases (x := x) (z := z) hp hi w' with
        ⟨-, hend⟩ | ⟨j, u, hj, hin, hout⟩ | ⟨failure, u, hin, -⟩
      · cases hend.symm.trans hgo
      · obtain rfl := JumpProgress.running.inj (hin.symm.trans hgo)
        exact .go hout (ih hok hj hrest)
      · cases hin.symm.trans hgo

/-- **A balanced part of a program** covers what it covers alone, and if it is left, what is covered
    from its end on. -/
theorem coversFrom_block_iff (hp : Text.Balanced p) (hi : i ≤ p.length) :
    (ofProgram (x ++ (p ++ z)) inputEnd).CoversFrom ⟨x.length + i, w⟩ v ↔
      (ofProgram p inputEnd).CoversFrom ⟨i, w⟩ v ∨
      ∃ u, (ofProgram p inputEnd).LeavesFrom ⟨i, w⟩ (.ok ()) u ∧
        (ofProgram (x ++ (p ++ z)) inputEnd).CoversFrom ⟨x.length + p.length, u⟩ v := by
  have hinside : (ofProgram p inputEnd).CoversFrom ⟨i, w⟩ v ↔
      (ofProgram p inputEnd).CoversInside ⟨i, w⟩ v := coversInside_iff.symm
  rw [hinside]
  clear hinside
  constructor
  · intro h
    generalize hs : (⟨x.length + i, w⟩ : JumpStage) = s at h
    induction h generalizing i w with
    | here h =>
        subst hs
        exact .inl (.here h)
    | stop hstop h =>
        subst hs
        rcases stepInside_cases (x := x) (z := z) hp hi w with
          ⟨rfl, hend⟩ | ⟨j, u, -, -, hout⟩ | ⟨failure, u, hin, hout⟩
        · exact .inr ⟨w, .stop hend, .stop hstop h⟩
        · cases hout.symm.trans hstop
        · obtain ⟨-, rfl⟩ := JumpProgress.finished.inj (hout.symm.trans hstop)
          exact .inl (.stop hin h)
    | go hgo hrest ih =>
        subst hs
        rcases stepInside_cases (x := x) (z := z) hp hi w with
          ⟨rfl, hend⟩ | ⟨j, u, hj, hin, hout⟩ | ⟨failure, u, -, hout⟩
        · exact .inr ⟨w, .stop hend, .go hgo hrest⟩
        · rcases ih hj (JumpProgress.running.inj (hout.symm.trans hgo)) with
            hinside | ⟨u', hleaves, hbehind⟩
          · exact .inl (.go hin hinside)
          · exact .inr ⟨u', .go hin hleaves, hbehind⟩
        · cases hout.symm.trans hgo
  · rintro (h | ⟨u, hleaves, hrest⟩)
    · exact h.coversFrom hp hi
    · exact hleaves.coversFrom hp rfl hi hrest

/-! ## Laws of programs -/

/-- **One program after another**: the first one covers what it covers alone, and if it is left, the
    second one goes on to cover more. -/
theorem coversFrom_append_iff (hp : Text.Balanced p) :
    (ofProgram (p ++ q) inputEnd).CoversFrom ⟨0, w⟩ v ↔
      (ofProgram p inputEnd).CoversFrom ⟨0, w⟩ v ∨
      ∃ u, (ofProgram p inputEnd).LeavesFrom ⟨0, w⟩ (.ok ()) u ∧
        (ofProgram q inputEnd).CoversFrom ⟨0, u⟩ v := by
  have hblock : (ofProgram ([] ++ (p ++ q)) inputEnd).CoversFrom ⟨0 + 0, w⟩ v ↔
      (ofProgram p inputEnd).CoversFrom ⟨0, w⟩ v ∨
      ∃ u, (ofProgram p inputEnd).LeavesFrom ⟨0, w⟩ (.ok ()) u ∧
        (ofProgram ([] ++ (p ++ q)) inputEnd).CoversFrom ⟨0 + p.length, u⟩ v :=
    coversFrom_block_iff hp (Nat.zero_le _)
  rw [List.nil_append, Nat.zero_add, Nat.zero_add] at hblock
  have hbehind : ∀ u, (ofProgram (p ++ q) inputEnd).CoversFrom ⟨p.length, u⟩ v ↔
      (ofProgram q inputEnd).CoversFrom ⟨0, u⟩ v :=
    fun u => coversFrom_behind_iff (s := ⟨0, u⟩) hp.openings_eq_nil
  simpa only [hbehind] using hblock

/-- **A loop that is passed**: on a zero cell the machine covers what it does without the loop. -/
theorem coversFrom_passed_iff (hb : Text.Balanced b) (hzero : w.tape.cell = 0) :
    (ofProgram ('[' :: (b ++ ']' :: q)) inputEnd).CoversFrom ⟨0, w⟩ v ↔
      (ofProgram q inputEnd).CoversFrom ⟨0, w⟩ v := by
  have hloop : Text.Balanced ('[' :: (b ++ [']'])) := .loop hb .nil
  rw [coversFrom_iff_of_running (step_passed hb hzero)]
  have hwhole : '[' :: (b ++ ']' :: q) = '[' :: (b ++ [']']) ++ q := by
    simp
  rw [hwhole]
  exact coversFrom_behind_iff (s := ⟨0, w⟩) hloop.openings_eq_nil

/-- **A loop that is entered**: on another cell the machine covers what the body does, and if that
    is left, what it covers when it has come back. -/
theorem coversFrom_entered_iff (hb : Text.Balanced b) (hcell : w.tape.cell ≠ 0) :
    (ofProgram ('[' :: (b ++ ']' :: q)) inputEnd).CoversFrom ⟨0, w⟩ v ↔
      (ofProgram b inputEnd).CoversFrom ⟨0, w⟩ v ∨
      ∃ u, (ofProgram b inputEnd).LeavesFrom ⟨0, w⟩ (.ok ()) u ∧
        (ofProgram ('[' :: (b ++ ']' :: q)) inputEnd).CoversFrom ⟨0, u⟩ v := by
  have hblock : (ofProgram (['['] ++ (b ++ ']' :: q)) inputEnd).CoversFrom ⟨1 + 0, w⟩ v ↔
      (ofProgram b inputEnd).CoversFrom ⟨0, w⟩ v ∨
      ∃ u, (ofProgram b inputEnd).LeavesFrom ⟨0, w⟩ (.ok ()) u ∧
        (ofProgram (['['] ++ (b ++ ']' :: q)) inputEnd).CoversFrom ⟨1 + b.length, u⟩ v :=
    coversFrom_block_iff hb (Nat.zero_le _)
  have hagain : ∀ u, (ofProgram ('[' :: (b ++ ']' :: q)) inputEnd).CoversFrom ⟨1 + b.length, u⟩ v ↔
      (ofProgram ('[' :: (b ++ ']' :: q)) inputEnd).CoversFrom ⟨0, u⟩ v :=
    fun u => coversFrom_iff_of_running (step_again hb u)
  rw [coversFrom_iff_of_running (step_entered hcell)]
  exact hblock.trans (or_congr_right (exists_congr fun u => and_congr_right fun _ => hagain u))

/-! ## Another world -/

/-- What is covered in a world that is changed unnoticed is covered in the world itself. -/
theorem coversFrom_onWorld_iff {change : World → World} (hchange : World.Unnoticed change)
    (hflush : ∀ w, (change w).flushed = (w.flushed.1, change w.flushed.2))
    (hmono : ∀ {u w : World}, u.Before w → (change u).Before (change w)) :
    (ofProgram p inputEnd).CoversFrom (s.onWorld change) v ↔
      ∃ u, (ofProgram p inputEnd).CoversFrom s u ∧ v.Before (change u) :=
  coversBy_map_iff (step_onWorld_of_flushed hchange hflush) (fun _ => rfl) hmono

/-- What the final flush will meet makes no difference to what is covered. -/
theorem coversFrom_flushing_iff {flushFailure : Option IoFailure} :
    (ofProgram p inputEnd).CoversFrom (s.onWriter (.flushing flushFailure)) v ↔
      (ofProgram p inputEnd).CoversFrom s v := by
  have hmap : (ofProgram p inputEnd).CoversInside (s.onWriter (.flushing flushFailure)) v ↔
      ∃ u, (ofProgram p inputEnd).CoversInside s u ∧
        v.Before (u.onWriter (.flushing flushFailure)) :=
    coversBy_map_iff (stepInside_onWriter (Writer.unnoticed_flushing flushFailure))
      (fun _ => rfl) fun h => ⟨h.written, h.left⟩
  rw [← coversInside_iff, ← coversInside_iff, hmap]
  constructor
  · rintro ⟨u, h, hbefore⟩
    exact h.mono ⟨hbefore.written, hbefore.left⟩
  · intro h
    exact ⟨v, h, List.prefix_refl _, List.suffix_refl _⟩

/-- Bytes that were accepted before come before all that is covered. -/
theorem coversFrom_continuing_iff (bytes : Array UInt8) :
    (ofProgram p inputEnd).CoversFrom (s.onWriter (.continuing bytes)) v ↔
      ∃ u, (ofProgram p inputEnd).CoversFrom s u ∧ v.Before (u.onWriter (.continuing bytes)) := by
  refine coversFrom_onWorld_iff (World.unnoticed_onWriter (Writer.unnoticed_continuing bytes)) ?_
    fun h => h.continuing bytes
  intro w
  simp only [World.flushed, World.onWriter, Writer.flush_continuing]

end JumpMachine

namespace Machine

variable {m m' : Machine} {reader : Reader} {writer : Writer} {w : World}

/-- A run covers what its jump machine covers. -/
theorem covers_iff_coversFrom (htape : m.tape.Valid) (fits : m.program.width < wordLimit) :
    m.Covers reader writer w ↔ (JumpMachine.ofProgram m.program m.setup.inputEnd).CoversFrom
      ⟨0, ⟨m.tape, reader, writer⟩⟩ w := by
  rw [JumpMachine.coversFrom_iff_iterate]
  constructor
  · rintro ⟨rounds, o, hrun, hbefore⟩
    exact ⟨rounds, hbefore.trans (before_jumped htape fits hrun)⟩
  · rintro ⟨steps, hsteps⟩
    obtain ⟨rounds, o, hrun, hbefore⟩ := exists_jumped_before htape fits reader writer steps
    exact ⟨rounds, o, hrun, hsteps.trans hbefore⟩

end Machine

end TextCursor
