import TextCursor.Proofs.JumpMachine

/-! # Steps of the jump machine

    At a place `front ++ c :: back` of its program the jump machine makes one of
    seven steps, which `JumpMachine.Step` lists with everything that they depend
    on: a jump over a loop, a jump out of one that is not closed, an entry, a jump
    back, a `]` without `[`, an instruction that acts, and one that fails.  There
    is exactly one at each place (`step_at`, `Step.step_eq`).

    `EndsBy` is what steps come to in the end.  A machine that is followed to the
    end of its program and no further (`LeavesFrom`) makes the same steps and does
    not flush. -/

namespace TextCursor

namespace JumpProgress

/-- Moves what goes on, and tells otherwise what has ended. -/
def map (move : JumpStage → JumpStage) (tell : Except MachineError Unit → Except MachineError Unit)
    (change : World → World) : JumpProgress → JumpProgress
  | .running s => .running (move s)
  | .finished result w => .finished (tell result) (change w)

/-- The world of what goes on or has ended. -/
def world : JumpProgress → World
  | .running s => s.world
  | .finished _ w => w

end JumpProgress

namespace JumpMachine

/-! ## What a step is -/

/-- What one step makes of a machine that stands behind `front` and before `c :: back`. -/
inductive Step (inputEnd : EndOfInput) (front : Text) (c : Char) (back : Text) (w : World) :
    JumpProgress → Prop
  /-- A loop that is closed is jumped over. -/
  | across {body rest : Text} (hc : c = '[') (hzero : w.tape.cell = 0)
      (hback : back = body ++ ']' :: rest) (hbody : Text.Balanced body) :
      Step inputEnd front c back w (.running ⟨front.length + body.length + 2, w⟩)
  /-- A loop that is not closed is left by a jump to the end of the program. -/
  | out (hc : c = '[') (hzero : w.tape.cell = 0)
      (hnone : ∀ body rest, back = body ++ ']' :: rest → ¬ Text.Balanced body) :
      Step inputEnd front c back w (.running ⟨front.length + back.length + 1, w⟩)
  /-- A loop is entered. -/
  | into (hc : c = '[') (hzero : w.tape.cell ≠ 0) :
      Step inputEnd front c back w (.running ⟨front.length + 1, w⟩)
  /-- A loop begins again. -/
  | again {before body : Text} (hc : c = ']') (hfront : front = before ++ '[' :: body)
      (hbody : Text.Balanced body) : Step inputEnd front c back w (.running ⟨before.length, w⟩)
  /-- A `]` has no `[`. -/
  | stray (hc : c = ']') (hnil : Text.openings front = []) :
      Step inputEnd front c back w (.finished (.error (.unmatchedLoopEnd front.width)) w)
  /-- An instruction acts. -/
  | acted {w' : World} (hopen : c ≠ '[') (hclose : c ≠ ']') (hact : w.act inputEnd c = (none, w')) :
      Step inputEnd front c back w (.running ⟨front.length + 1, w'⟩)
  /-- An instruction fails. -/
  | failed {failure : IoFailure} {w' : World} (hopen : c ≠ '[') (hclose : c ≠ ']')
      (hact : w.act inputEnd c = (some failure, w')) :
      Step inputEnd front c back w (.finished (.error (.io failure)) w')

variable {inputEnd : EndOfInput} {front back x z p q : Text} {c : Char} {w w' : World}
  {o : JumpProgress}

/-- There is one step at each place. -/
theorem Step.step_eq (h : Step inputEnd front c back w o) :
    (ofProgram (front ++ c :: back) inputEnd).step ⟨front.length, w⟩ = o := by
  cases h with
  | @across body rest hc hzero hback hbody =>
      subst hc hback
      have hindex : (front ++ '[' :: body).length + 1 = front.length + body.length + 2 := by
        rw [List.length_append, List.length_cons]
        omega
      rw [step_jump rfl hzero, afterLoop_of_balanced hbody, hindex]
  | out hc hzero hnone =>
      subst hc
      rw [step_jump rfl hzero, afterLoop_of_unclosed hnone, List.length_append, List.length_cons,
        Nat.add_assoc]
  | into hc hzero =>
      subst hc
      exact step_enter rfl hzero
  | again hc hfront hbody =>
      subst hc hfront
      refine step_back rfl ?_
      rw [List.append_assoc]
      exact opening?_of_balanced hbody
  | stray hc hnil =>
      subst hc
      exact step_stray rfl (opening?_of_stray hnil)
  | acted hopen hclose hact =>
      rw [step_plain rfl hopen hclose]
      have hact' : w.act (ofProgram (front ++ c :: back) inputEnd).inputEnd c = _ := hact
      rw [hact']
  | failed hopen hclose hact =>
      rw [step_plain rfl hopen hclose]
      have hact' : w.act (ofProgram (front ++ c :: back) inputEnd).inputEnd c = _ := hact
      rw [hact']

/-- There is a step at each place. -/
theorem exists_step (inputEnd : EndOfInput) (front : Text) (c : Char) (back : Text) (w : World) :
    ∃ o, Step inputEnd front c back w o := by
  -- the character decides, then the cell or the brackets before it, and last what the world answers
  by_cases hopen : c = '['
  · by_cases hzero : w.tape.cell = 0
    · by_cases hclosed : ∃ body rest, back = body ++ ']' :: rest ∧ Text.Balanced body
      · obtain ⟨body, rest, hback, hbody⟩ := hclosed
        exact ⟨_, .across hopen hzero hback hbody⟩
      · exact ⟨_, .out hopen hzero fun body rest heq hbody => hclosed ⟨body, rest, heq, hbody⟩⟩
    · exact ⟨_, .into hopen hzero⟩
  by_cases hclose : c = ']'
  · cases hstack : Text.openings front with
    | nil => exact ⟨_, .stray hclose hstack⟩
    | cons before opened =>
        obtain ⟨body, hfront, hbody, -⟩ := Text.eq_of_openings_eq_cons hstack
        exact ⟨_, .again hclose hfront hbody⟩
  · rcases hact : w.act inputEnd c with ⟨_ | failure, w'⟩
    · exact ⟨_, .acted hopen hclose hact⟩
    · exact ⟨_, .failed hopen hclose hact⟩

/-- At each place the machine makes one of the seven steps. -/
theorem step_at (inputEnd : EndOfInput) (front : Text) (c : Char) (back : Text) (w : World) :
    Step inputEnd front c back w
      ((ofProgram (front ++ c :: back) inputEnd).step ⟨front.length, w⟩) := by
  obtain ⟨o, h⟩ := exists_step inputEnd front c back w
  rw [h.step_eq]
  exact h

/-- In a text in which all brackets match a step stays inside, and only an instruction fails. -/
theorem Step.stays (h : Step inputEnd front c back w o) (hb : Text.Balanced (front ++ c :: back)) :
    (∃ i w', i ≤ (front ++ c :: back).length ∧ o = .running ⟨i, w'⟩) ∨
      ∃ failure w', o = .finished (.error (.io failure)) w' := by
  have hlength : (front ++ c :: back).length = front.length + back.length + 1 := by
    rw [List.length_append, List.length_cons, Nat.add_assoc]
  cases h with
  | @across body rest hc hzero hback hbody =>
      refine Or.inl ⟨_, w, ?_, rfl⟩
      rw [hlength, hback, List.length_append, List.length_cons]
      omega
  | out hc hzero hnone => exact Or.inl ⟨_, w, by omega, rfl⟩
  | into hc hzero => exact Or.inl ⟨_, w, by omega, rfl⟩
  | @again before body hc hfront hbody =>
      refine Or.inl ⟨_, w, ?_, rfl⟩
      rw [hlength, hfront, List.length_append]
      omega
  | stray hc hnil =>
      subst hc
      exact absurd hnil hb.openings_ne_nil
  | acted hopen hclose hact => exact Or.inl ⟨_, _, by omega, rfl⟩
  | failed hopen hclose hact => exact Or.inr ⟨_, _, rfl⟩

/-- An index before the end of a text is a place in it. -/
theorem exists_place {i : Nat} (hi : i < p.length) :
    ∃ front c back, p = front ++ c :: back ∧ front.length = i := by
  refine ⟨p.take i, p[i], p.drop (i + 1), ?_, ?_⟩
  · rw [← List.drop_eq_getElem_cons hi, List.take_append_drop]
  · rw [List.length_take, Nat.min_eq_left hi.le]

/-- Behind its last character a program is at its end. -/
theorem step_of_length_le {i : Nat} (hi : p.length ≤ i) (w : World) :
    (ofProgram p inputEnd).step ⟨i, w⟩ = .finished w.flushed.1 w.flushed.2 := by
  have hnone : (ofProgram p inputEnd).program[i]? = none := List.getElem?_eq_none hi
  simp only [step, hnone]

/-- In a program in which all brackets match a step stays inside, or an instruction fails. -/
theorem step_of_balanced (hp : Text.Balanced p) {i : Nat} (hi : i < p.length)
    (inputEnd : EndOfInput) (w : World) :
    (∃ j u, j ≤ p.length ∧ (ofProgram p inputEnd).step ⟨i, w⟩ = .running ⟨j, u⟩) ∨
      ∃ failure u, (ofProgram p inputEnd).step ⟨i, w⟩ = .finished (.error (.io failure)) u := by
  obtain ⟨front, c, back, rfl, rfl⟩ := exists_place hi
  exact (step_at inputEnd front c back w).stays hp

/-! ## Runs of the machine -/

/-- Steps are made from a stage until one of them ends with a result and a world. -/
inductive EndsBy (step : JumpStage → JumpProgress) :
    JumpStage → Except MachineError Unit → World → Prop
  | stop {s : JumpStage} {result : Except MachineError Unit} {w : World}
      (hstep : step s = .finished result w) : EndsBy step s result w
  | go {s s' : JumpStage} {result : Except MachineError Unit} {w : World}
      (hstep : step s = .running s') (hrest : EndsBy step s' result w) : EndsBy step s result w

/-- A machine goes on from a stage until it ends with a result and a world. -/
abbrev EndsFrom (m : JumpMachine) : JumpStage → Except MachineError Unit → World → Prop :=
  EndsBy m.step

/-- A step that stops at the end of the program and does not flush. -/
def stepInside (m : JumpMachine) (s : JumpStage) : JumpProgress :=
  if s.index < m.program.length then m.step s else .finished (.ok ()) s.world

/-- A machine goes on from a stage to the end of its program, or fails before.  It has not flushed
    its output yet. -/
abbrev LeavesFrom (m : JumpMachine) : JumpStage → Except MachineError Unit → World → Prop :=
  EndsBy m.stepInside

variable {m : JumpMachine} {step : JumpStage → JumpProgress} {s s' : JumpStage} {i : Nat}
  {result result' : Except MachineError Unit} {u : World}

/-- What goes on ends as it does one step later. -/
theorem endsBy_iff_of_running (hstep : step s = .running s') :
    EndsBy step s result w ↔ EndsBy step s' result w := by
  constructor
  · intro h
    cases h with
    | stop hstop =>
        rw [hstep] at hstop
        exact nomatch hstop
    | go hgo hrest =>
        rw [hstep] at hgo
        obtain rfl := JumpProgress.running.inj hgo
        exact hrest
  · exact .go hstep

/-- What a step finishes ends so and not otherwise. -/
theorem endsBy_iff_of_finished (hstep : step s = .finished result' w') :
    EndsBy step s result w ↔ result = result' ∧ w = w' := by
  constructor
  · intro h
    cases h with
    | stop hstop =>
        rw [hstep] at hstop
        obtain ⟨rfl, rfl⟩ := JumpProgress.finished.inj hstop
        exact ⟨rfl, rfl⟩
    | go hgo hrest =>
        rw [hstep] at hgo
        exact nomatch hgo
  · rintro ⟨rfl, rfl⟩
    exact .stop hstep

/-- A machine ends when some number of steps ends it. -/
theorem endsFrom_iff_iterate :
    m.EndsFrom s result w ↔ ∃ steps, m.next^[steps] (.running s) = .finished result w := by
  constructor
  · intro h
    induction h with
    | stop hstep => exact ⟨1, hstep⟩
    | @go s s' result w hstep _ ih =>
        obtain ⟨steps, hsteps⟩ := ih
        refine ⟨steps + 1, ?_⟩
        rw [Function.iterate_succ_apply]
        show m.next^[steps] (m.step s) = _
        rw [hstep, hsteps]
  · rintro ⟨steps, hsteps⟩
    induction steps generalizing s with
    | zero => exact nomatch hsteps
    | succ steps ih =>
        rw [Function.iterate_succ_apply] at hsteps
        replace hsteps : m.next^[steps] (m.step s) = .finished result w := hsteps
        cases hstep : m.step s with
        | running s' =>
            rw [hstep] at hsteps
            exact .go hstep (ih hsteps)
        | finished result' w' =>
            -- what has ended stays as it is, however many steps are left
            rw [hstep, Function.iterate_fixed rfl] at hsteps
            obtain ⟨rfl, rfl⟩ := JumpProgress.finished.inj hsteps
            exact .stop hstep

/-- Where steps are other steps moved, what they come to is moved. -/
theorem endsBy_map_iff {step' : JumpStage → JumpProgress} {move : JumpStage → JumpStage}
    {tell : Except MachineError Unit → Except MachineError Unit} {change : World → World}
    (hstep : ∀ s, step' (move s) = (step s).map move tell change) :
    EndsBy step' (move s) result w ↔
      ∃ result' w', EndsBy step s result' w' ∧ result = tell result' ∧ w = change w' := by
  constructor
  · intro h
    -- each stage of the moved run is a stage moved, and its step tells what that stage does
    generalize hs : move s = s' at h
    induction h generalizing s with
    | @stop s' result w hstop =>
        rw [← hs, hstep] at hstop
        cases hprogress : step s with
        | running t =>
            rw [hprogress] at hstop
            exact nomatch hstop
        | finished result' w' =>
            rw [hprogress] at hstop
            obtain ⟨rfl, rfl⟩ := JumpProgress.finished.inj hstop
            exact ⟨result', w', .stop hprogress, rfl, rfl⟩
    | @go s' s'' result w hgo _ ih =>
        rw [← hs, hstep] at hgo
        cases hprogress : step s with
        | running t =>
            rw [hprogress] at hgo
            obtain ⟨result', w', h', hsame⟩ := ih (JumpProgress.running.inj hgo)
            exact ⟨result', w', .go hprogress h', hsame⟩
        | finished result' w' =>
            rw [hprogress] at hgo
            exact nomatch hgo
  · rintro ⟨result', w', h, rfl, rfl⟩
    induction h with
    | stop hstop =>
        refine .stop ?_
        rw [hstep, hstop]
        rfl
    | go hgo _ ih =>
        refine .go ?_ ih
        rw [hstep, hgo]
        rfl

/-- Inside of the program the step that stops behind it is a step. -/
theorem stepInside_of_lt (hi : s.index < p.length) :
    (ofProgram p inputEnd).stepInside s = (ofProgram p inputEnd).step s :=
  if_pos hi

theorem stepInside_of_le (hi : p.length ≤ s.index) :
    (ofProgram p inputEnd).stepInside s = .finished (.ok ()) s.world :=
  if_neg (Nat.not_lt.mpr hi)

/-! ## What steps keep -/

/-- What every instruction keeps a step keeps. -/
theorem Step.keeps {P : World → Prop} (hact : ∀ c w, P w → P (w.act inputEnd c).2)
    (h : Step inputEnd front c back w o) (hw : P w) : P o.world := by
  cases h with
  | across hc hzero hback hbody => exact hw
  | out hc hzero hnone => exact hw
  | into hc hzero => exact hw
  | again hc hfront hbody => exact hw
  | stray hc hnil => exact hw
  | acted hopen hclose hacted =>
      have hkept := hact c w hw
      rw [hacted] at hkept
      exact hkept
  | failed hopen hclose hacted =>
      have hkept := hact c w hw
      rw [hacted] at hkept
      exact hkept

/-- What every instruction keeps, a step inside keeps. -/
theorem stepInside_keeps {P : World → Prop} (hact : ∀ c w, P w → P (w.act inputEnd c).2)
    (hs : P s.world) : P ((ofProgram p inputEnd).stepInside s).world := by
  obtain ⟨i, w⟩ := s
  rcases Nat.lt_or_ge i p.length with hi | hi
  · rw [stepInside_of_lt hi]
    obtain ⟨front, c, back, rfl, rfl⟩ := exists_place hi
    exact (step_at inputEnd front c back w).keeps hact hs
  · rw [stepInside_of_le hi]
    exact hs

/-- What every instruction keeps is kept up to the end of the program. -/
theorem LeavesFrom.keeps {P : World → Prop} (hact : ∀ c w, P w → P (w.act inputEnd c).2)
    (h : (ofProgram p inputEnd).LeavesFrom s result w) (hs : P s.world) : P w := by
  induction h with
  | stop hstop =>
      have hkept := stepInside_keeps (p := p) hact hs
      rw [hstop] at hkept
      exact hkept
  | go hgo _ ih =>
      have hkept := stepInside_keeps (p := p) hact hs
      rw [hgo] at hkept
      exact ih hkept

end JumpMachine

end TextCursor
