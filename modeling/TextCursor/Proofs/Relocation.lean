import TextCursor.Proofs.JumpSteps
import TextCursor.Proofs.Outputs

/-! # Programs inside of programs

    What a jump machine does inside a part of its program depends on that part
    alone, if all brackets of the part match, or if the part is the end of the
    program and all brackets before it match.  Moving a step behind another text is
    then a matter of moving its place (`Step.behind`).

    It follows that the end of a program runs as a program of its own, with all
    indices and offsets moved (`endsFrom_behind_iff`), and that a balanced part runs
    as a program of its own up to its end, from where the machine goes on unless an
    instruction in it fails (`endsFrom_block_iff`).  The laws of sequences and of
    loops are instances of these two.

    The same programs in another world are compared in the last section: what no
    instruction notices makes no difference to steps, and up to the flush nothing
    depends on what a writer does not notice. -/

namespace TextCursor

/-- An error as a program reports it that stands behind a text. -/
def MachineError.behind (front : Text) : MachineError → MachineError
  | .unmatchedLoopEnd offset => .unmatchedLoopEnd (front.width + offset)
  | .io failure => .io failure

/-- A stage as it is when a text stands before the program. -/
def JumpStage.behind (front : Text) (s : JumpStage) : JumpStage :=
  ⟨front.length + s.index, s.world⟩

/-- A stage with its world changed. -/
def JumpStage.onWorld (change : World → World) (s : JumpStage) : JumpStage :=
  ⟨s.index, change s.world⟩

/-- A stage with its writer changed. -/
def JumpStage.onWriter (change : Writer → Writer) (s : JumpStage) : JumpStage :=
  ⟨s.index, s.world.onWriter change⟩

namespace JumpProgress

/-- What goes on or has ended, as it is when a text stands before the program. -/
def behind (front : Text) : JumpProgress → JumpProgress :=
  map (.behind front) (Except.mapError (.behind front)) id

/-- What goes on or has ended, with its world changed. -/
def onWorld (change : World → World) : JumpProgress → JumpProgress :=
  map (.onWorld change) id change

/-- What goes on or has ended, with its writer changed. -/
def onWriter (change : Writer → Writer) : JumpProgress → JumpProgress :=
  map (.onWriter change) id (.onWriter change)

end JumpProgress

namespace JumpMachine

variable {inputEnd : EndOfInput} {front back x z p q b : Text} {c : Char} {w w' u : World}
  {o : JumpProgress} {m : JumpMachine} {s : JumpStage} {i : Nat}
  {result : Except MachineError Unit}

/-! ## A step in a larger program -/

/-- A part of a program in which the machine does what it does in the part alone: a balanced part,
    or one that ends the program behind a text that leaves no bracket open. -/
def Independent (x part z : Text) : Prop :=
  Text.Balanced part ∨ (Text.openings x = [] ∧ z = [])

/-- A step in a part of a program is the step in the part alone, moved behind what stands before. -/
theorem Step.behind (h : Step inputEnd front c back w o)
    (hpart : Independent x (front ++ c :: back) z) :
    Step inputEnd (x ++ front) c (back ++ z) w (o.behind x) := by
  have hmove : ∀ n, x.length + (front.length + n) = (x ++ front).length + n := by
    intro n
    rw [List.length_append, Nat.add_assoc]
  cases h with
  | @across body rest hc hzero hback hbody =>
      show Step _ _ _ _ _ (.running ⟨x.length + (front.length + body.length + 2), w⟩)
      rw [Nat.add_assoc front.length, hmove, ← Nat.add_assoc]
      have hback' : back ++ z = body ++ ']' :: (rest ++ z) := by
        rw [hback, List.append_assoc, List.cons_append]
      exact .across hc hzero hback' hbody
  | out hc hzero hnone =>
      rcases hpart with hbalanced | ⟨-, rfl⟩
      · -- in a balanced part every `[` is closed
        subst hc
        obtain ⟨body, rest, heq, hbody⟩ := hbalanced.exists_close
        exact absurd hbody (hnone body rest heq)
      · show Step _ _ _ _ _ (.running ⟨x.length + (front.length + back.length + 1), w⟩)
        rw [Nat.add_assoc front.length, hmove, ← Nat.add_assoc, List.append_nil]
        exact .out hc hzero hnone
  | into hc hzero =>
      show Step _ _ _ _ _ (.running ⟨x.length + (front.length + 1), w⟩)
      rw [hmove]
      exact .into hc hzero
  | @again before body hc hfront hbody =>
      show Step _ _ _ _ _ (.running ⟨x.length + before.length, w⟩)
      rw [← List.length_append]
      refine .again hc ?_ hbody
      rw [hfront, List.append_assoc]
  | stray hc hnil =>
      rcases hpart with hbalanced | ⟨hx, -⟩
      · -- and every `]` has its `[` in it
        subst hc
        exact absurd hnil hbalanced.openings_ne_nil
      · show Step _ _ _ _ _ (.finished (.error (.unmatchedLoopEnd (x.width + front.width))) w)
        rw [← Text.width_append]
        refine .stray hc ?_
        rw [Text.openings_append_of_nil hx, hnil, List.map_nil]
  | acted hopen hclose hact =>
      show Step _ _ _ _ _ (.running ⟨x.length + (front.length + 1), _⟩)
      rw [hmove]
      exact .acted hopen hclose hact
  | failed hopen hclose hact => exact .failed hopen hclose hact

/-- Before the end of an independent part the machine of the whole program steps as that of the
    part does. -/
theorem step_behind (hpart : Independent x p z) {i : Nat} (hi : i < p.length) (w : World) :
    (ofProgram (x ++ (p ++ z)) inputEnd).step ⟨x.length + i, w⟩
      = ((ofProgram p inputEnd).step ⟨i, w⟩).behind x := by
  obtain ⟨front, c, back, rfl, rfl⟩ := exists_place hi
  have hwhole : x ++ ((front ++ c :: back) ++ z) = (x ++ front) ++ c :: (back ++ z) := by
    simp
  rw [hwhole, ← List.length_append]
  exact ((step_at inputEnd front c back w).behind hpart).step_eq

/-! ## Parts of programs -/

/-- At the end of a program, before which all brackets match, each step is that of the end as a
    program of its own, moved. -/
theorem step_of_behind (hx : Text.openings x = []) (s : JumpStage) :
    (ofProgram (x ++ q) inputEnd).step (s.behind x)
      = ((ofProgram q inputEnd).step s).behind x := by
  obtain ⟨i, w⟩ := s
  by_cases hi : i < q.length
  · have hinside : (ofProgram (x ++ (q ++ [])) inputEnd).step ⟨x.length + i, w⟩
        = ((ofProgram q inputEnd).step ⟨i, w⟩).behind x := step_behind (.inr ⟨hx, rfl⟩) hi w
    rw [List.append_nil] at hinside
    exact hinside
  · -- at the end both flush, and a failure of that has no offset
    have hend : (x ++ q).length ≤ x.length + i := by
      rw [List.length_append]
      omega
    show (ofProgram (x ++ q) inputEnd).step ⟨x.length + i, w⟩ = _
    rw [step_of_length_le hend, step_of_length_le (Nat.le_of_not_lt hi)]
    show _ = JumpProgress.finished (w.flushed.1.mapError (.behind x)) w.flushed.2
    have hflush : w.flushed.1 = w.writer.flush.1.mapError .io := rfl
    rw [hflush]
    cases w.writer.flush.1 <;> rfl

/-- **The end of a program** runs as a program of its own when all brackets before it match. -/
theorem endsFrom_behind_iff (hx : Text.openings x = []) :
    (ofProgram (x ++ q) inputEnd).EndsFrom (s.behind x) result w ↔
      ∃ result', (ofProgram q inputEnd).EndsFrom s result' w ∧
        result = result'.mapError (.behind x) := by
  rw [EndsFrom, endsBy_map_iff (step_of_behind hx)]
  constructor
  · rintro ⟨result', w', h, rfl, rfl⟩
    exact ⟨result', h, rfl⟩
  · rintro ⟨result', h, rfl⟩
    exact ⟨result', w, h, rfl, rfl⟩

/-- What becomes of a machine that has left a part of its program with an outcome: it goes on from
    the end of the part, or it has failed inside and ended there. -/
def GoesOn (m : JumpMachine) (stop : Nat) (outcome : Except MachineError Unit) (u : World)
    (result : Except MachineError Unit) (w : World) : Prop :=
  match outcome with
  | .ok () => m.EndsFrom ⟨stop, u⟩ result w
  | .error error => result = .error error ∧ w = u

/-- A stage in a balanced part is at its end, or it steps inside, in the whole program as in the
    part alone, or an instruction fails in both. -/
theorem stepInside_cases (hp : Text.Balanced p) (hi : i ≤ p.length) (w : World) :
    (i = p.length ∧ (ofProgram p inputEnd).stepInside ⟨i, w⟩ = .finished (.ok ()) w) ∨
    (∃ j u, j ≤ p.length ∧ (ofProgram p inputEnd).stepInside ⟨i, w⟩ = .running ⟨j, u⟩ ∧
      (ofProgram (x ++ (p ++ z)) inputEnd).step ⟨x.length + i, w⟩
        = .running ⟨x.length + j, u⟩) ∨
    ∃ failure u, (ofProgram p inputEnd).stepInside ⟨i, w⟩ = .finished (.error (.io failure)) u ∧
      (ofProgram (x ++ (p ++ z)) inputEnd).step ⟨x.length + i, w⟩
        = .finished (.error (.io failure)) u := by
  rcases Nat.eq_or_lt_of_le hi with rfl | hlt
  · exact .inl ⟨rfl, stepInside_of_le hi⟩
  have hinside : (ofProgram p inputEnd).stepInside ⟨i, w⟩ = (ofProgram p inputEnd).step ⟨i, w⟩ :=
    stepInside_of_lt hlt
  rw [hinside, step_behind (.inl hp) hlt]
  rcases step_of_balanced hp hlt inputEnd w with
    ⟨j, u, hj, hstay⟩ | ⟨failure, u, hfail⟩
  · rw [hstay]
    exact .inr (.inl ⟨j, u, hj, rfl, rfl⟩)
  · rw [hfail]
    exact .inr (.inr ⟨failure, u, rfl, rfl⟩)

/-- **A balanced part of a program** runs as a program of its own, and the machine goes on from its
    end unless an instruction in it fails. -/
theorem endsFrom_block_iff (hp : Text.Balanced p) (hi : i ≤ p.length) :
    (ofProgram (x ++ (p ++ z)) inputEnd).EndsFrom ⟨x.length + i, w⟩ result w' ↔
      ∃ outcome u, (ofProgram p inputEnd).LeavesFrom ⟨i, w⟩ outcome u ∧
        (ofProgram (x ++ (p ++ z)) inputEnd).GoesOn (x.length + p.length) outcome u result w' := by
  -- both ways go along the run that is given, whose steps inside are steps of the other one
  constructor
  · intro h
    generalize hs : (⟨x.length + i, w⟩ : JumpStage) = s at h
    induction h generalizing i w with
    | stop hstop =>
        subst hs
        rcases stepInside_cases (x := x) (z := z) hp hi w with
          ⟨rfl, hend⟩ | ⟨j, u, -, -, hout⟩ | ⟨failure, u, hin, hout⟩
        · exact ⟨.ok (), w, .stop hend, .stop hstop⟩
        · exact nomatch hout.symm.trans hstop
        · obtain ⟨rfl, rfl⟩ := JumpProgress.finished.inj (hout.symm.trans hstop)
          exact ⟨_, u, .stop hin, rfl, rfl⟩
    | go hgo hrest ih =>
        subst hs
        rcases stepInside_cases (x := x) (z := z) hp hi w with
          ⟨rfl, hend⟩ | ⟨j, u, hj, hin, hout⟩ | ⟨failure, u, -, hout⟩
        · exact ⟨.ok (), w, .stop hend, .go hgo hrest⟩
        · have hsame := JumpProgress.running.inj (hout.symm.trans hgo)
          obtain ⟨outcome, v, hleaves, hon⟩ := ih hj hsame
          exact ⟨outcome, v, .go hin hleaves, hon⟩
        · exact nomatch hout.symm.trans hgo
  · rintro ⟨outcome, u, h, hon⟩
    generalize hs : (⟨i, w⟩ : JumpStage) = s at h
    induction h generalizing i w with
    | stop hstop =>
        subst hs
        rcases stepInside_cases (x := x) (z := z) hp hi w with
          ⟨rfl, hend⟩ | ⟨j, v, -, hin, -⟩ | ⟨failure, v, hin, hout⟩
        · obtain ⟨rfl, rfl⟩ := JumpProgress.finished.inj (hend.symm.trans hstop)
          exact hon
        · exact nomatch hin.symm.trans hstop
        · obtain ⟨rfl, rfl⟩ := JumpProgress.finished.inj (hin.symm.trans hstop)
          obtain ⟨rfl, rfl⟩ := hon
          exact .stop hout
    | go hgo _ ih =>
        subst hs
        rcases stepInside_cases (x := x) (z := z) hp hi w with
          ⟨-, hend⟩ | ⟨j, v, hj, hin, hout⟩ | ⟨failure, v, hin, -⟩
        · exact nomatch hend.symm.trans hgo
        · exact .go hout (ih hj hon (JumpProgress.running.inj (hin.symm.trans hgo)))
        · exact nomatch hin.symm.trans hgo

/-- A balanced beginning of a program runs as a program of its own up to its end. -/
theorem endsFrom_front_iff (hp : Text.Balanced p) :
    (ofProgram (p ++ q) inputEnd).EndsFrom ⟨0, w⟩ result w' ↔
      ∃ outcome u, (ofProgram p inputEnd).LeavesFrom ⟨0, w⟩ outcome u ∧
        (ofProgram (p ++ q) inputEnd).GoesOn p.length outcome u result w' := by
  have hblock : (ofProgram ([] ++ (p ++ q)) inputEnd).EndsFrom ⟨0 + 0, w⟩ result w' ↔
      ∃ outcome u, (ofProgram p inputEnd).LeavesFrom ⟨0, w⟩ outcome u ∧
        (ofProgram ([] ++ (p ++ q)) inputEnd).GoesOn (0 + p.length) outcome u result w' :=
    endsFrom_block_iff hp (Nat.zero_le _)
  rwa [List.nil_append, Nat.zero_add, Nat.zero_add] at hblock

/-- A balanced program that is left with an outcome flushes at its end, if it gets there. -/
theorem endsFrom_iff_leavesFrom (hp : Text.Balanced p) :
    (ofProgram p inputEnd).EndsFrom ⟨0, w⟩ result w' ↔
      ∃ outcome u, (ofProgram p inputEnd).LeavesFrom ⟨0, w⟩ outcome u ∧
        (ofProgram p inputEnd).GoesOn p.length outcome u result w' := by
  have hfront : (ofProgram (p ++ []) inputEnd).EndsFrom ⟨0, w⟩ result w' ↔
      ∃ outcome u, (ofProgram p inputEnd).LeavesFrom ⟨0, w⟩ outcome u ∧
        (ofProgram (p ++ []) inputEnd).GoesOn p.length outcome u result w' := endsFrom_front_iff hp
  rwa [List.append_nil] at hfront

/-- A balanced program is left in no other way than at its end or by an instruction that fails. -/
theorem LeavesFrom.result_cases (h : (ofProgram p inputEnd).LeavesFrom s result w)
    (hp : Text.Balanced p) (hi : s.index ≤ p.length) :
    result = .ok () ∨ ∃ failure, result = .error (.io failure) := by
  induction h with
  | @stop s result w hstop =>
      rcases stepInside_cases (x := []) (z := []) hp hi s.world with
        ⟨-, hend⟩ | ⟨j, v, -, hin, -⟩ | ⟨failure, v, hin, -⟩
      · exact .inl (JumpProgress.finished.inj (hstop.symm.trans hend)).1
      · exact nomatch hstop.symm.trans hin
      · exact .inr ⟨failure, (JumpProgress.finished.inj (hstop.symm.trans hin)).1⟩
  | @go s s' result w hgo _ ih =>
      rcases stepInside_cases (x := []) (z := []) hp hi s.world with
        ⟨-, hend⟩ | ⟨j, v, hj, hin, -⟩ | ⟨failure, v, hin, -⟩
      · exact nomatch hgo.symm.trans hend
      · obtain rfl := JumpProgress.running.inj (hgo.symm.trans hin)
        exact ih hj
      · exact nomatch hgo.symm.trans hin

/-! ## Laws of programs -/

/-- **One program after another**: behind a balanced text the machine goes on as it would without
    it, from the world that the text leaves. -/
theorem endsFrom_append_iff (hp : Text.Balanced p) :
    (ofProgram (p ++ q) inputEnd).EndsFrom ⟨0, w⟩ result w' ↔
      ∃ result', (∃ outcome u, (ofProgram p inputEnd).LeavesFrom ⟨0, w⟩ outcome u ∧
          (ofProgram q inputEnd).GoesOn 0 outcome u result' w') ∧
        result = result'.mapError (.behind p) := by
  have hbehind : ∀ u, (ofProgram (p ++ q) inputEnd).EndsFrom ⟨p.length, u⟩ result w' ↔
      ∃ result', (ofProgram q inputEnd).EndsFrom ⟨0, u⟩ result' w' ∧
        result = result'.mapError (.behind p) :=
    fun u => endsFrom_behind_iff (s := ⟨0, u⟩) hp.openings_eq_nil
  rw [endsFrom_front_iff hp]
  constructor
  · rintro ⟨outcome, u, hleaves, hon⟩
    rcases hleaves.result_cases hp (Nat.zero_le _) with rfl | ⟨failure, rfl⟩
    · obtain ⟨result', hends, hresult⟩ := (hbehind u).mp hon
      exact ⟨result', ⟨_, u, hleaves, hends⟩, hresult⟩
    · obtain ⟨rfl, rfl⟩ := hon
      exact ⟨_, ⟨_, _, hleaves, rfl, rfl⟩, rfl⟩
  · rintro ⟨result', ⟨outcome, u, hleaves, hon⟩, hresult⟩
    refine ⟨outcome, u, hleaves, ?_⟩
    rcases hleaves.result_cases hp (Nat.zero_le _) with rfl | ⟨failure, rfl⟩
    · exact (hbehind u).mpr ⟨result', hon, hresult⟩
    · obtain ⟨rfl, rfl⟩ := hon
      exact ⟨hresult, rfl⟩

/-- On a zero cell a loop at the start of a program is jumped over. -/
theorem step_passed (hb : Text.Balanced b) (hzero : w.tape.cell = 0) :
    (ofProgram ('[' :: (b ++ ']' :: q)) inputEnd).step ⟨0, w⟩
      = .running (JumpStage.behind ('[' :: (b ++ [']'])) ⟨0, w⟩) := by
  have hstep : (ofProgram ([] ++ '[' :: (b ++ ']' :: q)) inputEnd).step ⟨0, w⟩
      = .running ⟨0 + b.length + 2, w⟩ := (Step.across rfl hzero rfl hb).step_eq
  have hlength : 0 + b.length + 2 = ('[' :: (b ++ [']'])).length + 0 := by
    simp
  rwa [List.nil_append, hlength] at hstep

/-- On another cell it is entered. -/
theorem step_entered (hcell : w.tape.cell ≠ 0) :
    (ofProgram ('[' :: (b ++ ']' :: q)) inputEnd).step ⟨0, w⟩ = .running ⟨1 + 0, w⟩ := by
  have hstep : (ofProgram ([] ++ '[' :: (b ++ ']' :: q)) inputEnd).step ⟨0, w⟩
      = .running ⟨0 + 1, w⟩ := (Step.into rfl hcell).step_eq
  rwa [List.nil_append] at hstep

/-- From its `]` the machine is back at its `[` in one step. -/
theorem step_again (hb : Text.Balanced b) (w : World) :
    (ofProgram ('[' :: (b ++ ']' :: q)) inputEnd).step ⟨1 + b.length, w⟩ = .running ⟨0, w⟩ := by
  have hstep : Step inputEnd ('[' :: b) ']' q w (.running ⟨([] : Text).length, w⟩) :=
    .again rfl rfl hb
  rw [Nat.add_comm]
  exact hstep.step_eq

/-- **A loop that is passed**: on a zero cell the machine goes on behind the loop. -/
theorem endsFrom_passed_iff (hb : Text.Balanced b) (hzero : w.tape.cell = 0) :
    (ofProgram ('[' :: (b ++ ']' :: q)) inputEnd).EndsFrom ⟨0, w⟩ result w' ↔
      ∃ result', (ofProgram q inputEnd).EndsFrom ⟨0, w⟩ result' w' ∧
        result = result'.mapError (.behind ('[' :: (b ++ [']']))) := by
  have hloop : Text.Balanced ('[' :: (b ++ [']'])) := .loop hb .nil
  refine (endsBy_iff_of_running (step_passed hb hzero)).trans ?_
  have hwhole : '[' :: (b ++ ']' :: q) = '[' :: (b ++ [']']) ++ q := by
    simp
  rw [hwhole]
  exact endsFrom_behind_iff (s := ⟨0, w⟩) hloop.openings_eq_nil

/-- **A loop that is entered**: on another cell the machine executes the body and comes back. -/
theorem endsFrom_entered_iff (hb : Text.Balanced b) (hcell : w.tape.cell ≠ 0) :
    (ofProgram ('[' :: (b ++ ']' :: q)) inputEnd).EndsFrom ⟨0, w⟩ result w' ↔
      ∃ outcome u, (ofProgram b inputEnd).LeavesFrom ⟨0, w⟩ outcome u ∧
        (ofProgram ('[' :: (b ++ ']' :: q)) inputEnd).GoesOn 0 outcome u result w' := by
  have hblock : (ofProgram (['['] ++ (b ++ ']' :: q)) inputEnd).EndsFrom ⟨1 + 0, w⟩ result w' ↔
      ∃ outcome u, (ofProgram b inputEnd).LeavesFrom ⟨0, w⟩ outcome u ∧
        (ofProgram (['['] ++ (b ++ ']' :: q)) inputEnd).GoesOn (1 + b.length) outcome u result w' :=
    endsFrom_block_iff hb (Nat.zero_le _)
  refine (endsBy_iff_of_running (step_entered hcell)).trans (hblock.trans ?_)
  have hon : ∀ outcome u, (ofProgram (['['] ++ (b ++ ']' :: q)) inputEnd).GoesOn (1 + b.length)
        outcome u result w' ↔
      (ofProgram ('[' :: (b ++ ']' :: q)) inputEnd).GoesOn 0 outcome u result w' := by
    rintro (error | ⟨⟩) u
    · exact Iff.rfl
    · exact endsBy_iff_of_running (step_again hb u)
  simp only [hon]

/-! ## Another world -/

/-- A step is the same in a world that is changed unnoticed. -/
theorem Step.onWorld (h : Step inputEnd front c back w o) {change : World → World}
    (hchange : World.Unnoticed change) :
    Step inputEnd front c back (change w) (o.onWorld change) := by
  have hcell := hchange.cell_eq w
  cases h with
  | across hc hzero hback hbody => exact .across hc (hcell.trans hzero) hback hbody
  | out hc hzero hnone => exact .out hc (hcell.trans hzero) hnone
  | into hc hzero => exact .into hc (hcell ▸ hzero)
  | again hc hfront hbody => exact .again hc hfront hbody
  | stray hc hnil => exact .stray hc hnil
  | acted hopen hclose hact =>
      refine .acted hopen hclose ?_
      rw [hchange.act_eq, hact]
  | failed hopen hclose hact =>
      refine .failed hopen hclose ?_
      rw [hchange.act_eq, hact]

/-- Before the end of its program a machine steps alike in both worlds. -/
theorem step_onWorld {change : World → World} (hchange : World.Unnoticed change)
    (hi : s.index < p.length) :
    (ofProgram p inputEnd).step (s.onWorld change)
      = ((ofProgram p inputEnd).step s).onWorld change := by
  obtain ⟨i, w⟩ := s
  obtain ⟨front, c, back, rfl, rfl⟩ := exists_place hi
  exact ((step_at inputEnd front c back w).onWorld hchange).step_eq

/-- Also at the end of its program, if the flush is the same in both worlds. -/
theorem step_onWorld_of_flushed {change : World → World} (hchange : World.Unnoticed change)
    (hflush : ∀ w, (change w).flushed = (w.flushed.1, change w.flushed.2)) (s : JumpStage) :
    (ofProgram p inputEnd).step (s.onWorld change)
      = ((ofProgram p inputEnd).step s).onWorld change := by
  by_cases hi : s.index < p.length
  · exact step_onWorld hchange hi
  · have hend := Nat.le_of_not_lt hi
    show (ofProgram p inputEnd).step ⟨s.index, change s.world⟩ = _
    rw [step_of_length_le hend, step_of_length_le hend, hflush]
    rfl

/-- What a machine comes to is the same in both worlds if the flush is too. -/
theorem endsFrom_onWorld_iff {change : World → World} (hchange : World.Unnoticed change)
    (hflush : ∀ w, (change w).flushed = (w.flushed.1, change w.flushed.2)) :
    (ofProgram p inputEnd).EndsFrom (s.onWorld change) result w ↔
      ∃ u, (ofProgram p inputEnd).EndsFrom s result u ∧ w = change u := by
  rw [EndsFrom, endsBy_map_iff (step_onWorld_of_flushed hchange hflush)]
  constructor
  · rintro ⟨result', u, h, rfl, rfl⟩
    exact ⟨u, h, rfl⟩
  · rintro ⟨u, h, rfl⟩
    exact ⟨result, u, h, rfl, rfl⟩

/-- Before the end of its program a machine steps alike for both writers. -/
theorem step_onWriter {change : Writer → Writer} (hchange : Writer.Unnoticed change)
    (hi : s.index < p.length) :
    (ofProgram p inputEnd).step (s.onWriter change)
      = ((ofProgram p inputEnd).step s).onWriter change :=
  step_onWorld (World.unnoticed_onWriter hchange) hi

/-- Up to the end of its program a machine steps alike for both writers. -/
theorem stepInside_onWriter {change : Writer → Writer} (hchange : Writer.Unnoticed change)
    (s : JumpStage) :
    (ofProgram p inputEnd).stepInside (s.onWriter change)
      = ((ofProgram p inputEnd).stepInside s).onWriter change := by
  by_cases hi : s.index < p.length
  · have hi' : (s.onWriter change).index < p.length := hi
    rw [stepInside_of_lt hi, stepInside_of_lt hi', step_onWriter hchange hi]
  · have hend : p.length ≤ s.index := Nat.le_of_not_lt hi
    have hend' : p.length ≤ (s.onWriter change).index := hend
    rw [stepInside_of_le hend, stepInside_of_le hend']
    rfl

/-- What a machine does before its flush it does alike for both writers. -/
theorem leavesFrom_onWriter_iff {change : Writer → Writer} (hchange : Writer.Unnoticed change) :
    (ofProgram p inputEnd).LeavesFrom (s.onWriter change) result w ↔
      ∃ u, (ofProgram p inputEnd).LeavesFrom s result u ∧ w = u.onWriter change := by
  rw [LeavesFrom, endsBy_map_iff (stepInside_onWriter hchange)]
  constructor
  · rintro ⟨result', u, h, rfl, rfl⟩
    exact ⟨u, h, rfl⟩
  · rintro ⟨u, h, rfl⟩
    exact ⟨result, u, h, rfl, rfl⟩

/-- What a machine comes to is the same for both writers if the flush is too. -/
theorem endsFrom_onWriter_iff {change : Writer → Writer} (hchange : Writer.Unnoticed change)
    (hflush : ∀ w, (change w).flush = (w.flush.1, change w.flush.2)) :
    (ofProgram p inputEnd).EndsFrom (s.onWriter change) result w ↔
      ∃ u, (ofProgram p inputEnd).EndsFrom s result u ∧ w = u.onWriter change := by
  refine endsFrom_onWorld_iff (World.unnoticed_onWriter hchange) ?_
  intro w
  simp only [World.flushed, World.onWriter, hflush]

end JumpMachine

end TextCursor
