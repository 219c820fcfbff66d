import TextCursor.Proofs.JumpMachine
import TextCursor.Proofs.OpenLoops

/-! # Walking and jumping

    A run has no table: it walks through what it skips, character by character,
    and opens and leaves every loop on the way.  It still does what the jump
    machine does.

    One step of the jump machine is one round of a run, except that a jump over a
    loop is a walk through it.  `Run.Skimming.through` follows such a walk: as long
    as the bracket at which it began stays open, nothing but the open loops above
    it changes.  `Run.Executing.follows` is the step, for runs of which no open loop
    is skipped, and `Agrees.simulates` counts rounds against steps, so that
    neither of the two can go on where the other ends. -/

namespace TextCursor

/-! ## Rounds without a count -/

namespace Outcome

/-- An outcome comes to another one in some more rounds. -/
def Reaches (o o' : Outcome) : Prop :=
  ∃ rounds, o.runFor rounds = .ok o'

variable {o o' o'' : Outcome} {r : Run}

/-- Rounds from an outcome may be counted in two parts. -/
theorem runFor_add {m : Nat} (h : o.runFor m = .ok o') (n : Nat) :
    o.runFor (m + n) = o'.runFor n := by
  cases o with
  | running r => exact Run.runFor_add h n
  | finished result r =>
      obtain rfl := Except.ok.inj h
      rfl

/-- What a run has come to does not depend on how long one waits. -/
theorem eq_of_runFor_finished {result : Except MachineError Unit} {m n : Nat}
    (h : o.runFor m = .ok (.finished result r)) (h' : o.runFor n = .ok o') (hle : m ≤ n) :
    o' = .finished result r := by
  have hlater := runFor_add h (n - m)
  rw [Nat.add_sub_cancel' hle, h'] at hlater
  exact Except.ok.inj hlater

theorem Reaches.refl (o : Outcome) : o.Reaches o := by
  cases o with
  | running r => exact ⟨0, rfl⟩
  | finished result r => exact ⟨0, rfl⟩

/-- What is reached from what is reached is reached. -/
theorem Reaches.trans (h : o.Reaches o') (h' : o'.Reaches o'') : o.Reaches o'' := by
  obtain ⟨m, hm⟩ := h
  obtain ⟨n, hn⟩ := h'
  exact ⟨m + n, by rw [runFor_add hm, hn]⟩

/-- One round reaches what it comes to. -/
theorem Reaches.of_round (h : r.round = .ok o) : (Outcome.running r).Reaches o := by
  refine ⟨0 + 1, ?_⟩
  show r.runFor (0 + 1) = _
  rw [Run.runFor_succ h]
  cases o with
  | running r' => rfl
  | finished result r' => rfl

end Outcome

namespace Run

variable {r : Run} {program front back : Text} {d : Char} {setup : MachineSetup}
  {base : List OpenLoop} {w : World}

theorem world_ended (r : Run) : r.ended.world = r.world.flushed.2 := by
  rw [ended]
  cases r.machine.loops.isEmpty <;> rfl

/-! ## Walking through what is skipped -/

/-- A run that skips: the loops that it has opened above the given ones are all skipped, and its
    world is the given one. -/
structure Skimming (program : Text) (setup : MachineSetup) (base : List OpenLoop) (w : World)
    (front back : Text) (r : Run) : Prop extends r.Ready program front back where
  setup_eq : r.machine.setup = setup
  world_eq : r.world = w
  loops_eq : ∃ above, r.machine.loops = above ++ base ∧ ∀ l ∈ above, l.skip = true

namespace Skimming

/-- While more brackets are open than the given loops have, the innermost loop is skipped. -/
theorem innermost (h : r.Skimming program setup base w front back)
    (hopen : base.length < (Text.openings front).length) :
    ∃ innermost above, r.machine.loops = innermost :: (above ++ base) ∧ innermost.skip = true ∧
      ∀ l ∈ above, l.skip = true := by
  obtain ⟨above, hloops, hskip⟩ := h.loops_eq
  cases above with
  | nil =>
      have hlength := h.length_loops
      rw [hloops, List.nil_append] at hlength
      omega
  | cons innermost above =>
      rw [List.forall_mem_cons] at hskip
      exact ⟨innermost, above, hloops, hskip.1, hskip.2⟩

/-- A round of a run that skips changes nothing but the loops that it has opened. -/
theorem round_ok (h : r.Skimming program setup base w front (d :: back))
    (hopen : base.length < (Text.openings front).length) :
    ∃ r' : Run, r.round = .ok r'.settle ∧ r'.Skimming program setup base w (front ++ [d]) back := by
  obtain ⟨innermost, above, hloops, hinnermost, habove⟩ := h.innermost hopen
  have hskipping : r.machine.isSkipping = true := by
    rw [Machine.isSkipping, hloops]
    exact hinnermost
  obtain ⟨o, hround, hcase⟩ := Run.round_ok h.toReady
  cases hcase with
  | opened hd hready =>
      refine ⟨_, hround, hready, h.setup_eq, h.world_eq,
        ⟨front.width, r.skips⟩ :: innermost :: above, ?_, ?_⟩
      · show _ :: r.machine.loops = _
        rw [hloops]
        rfl
      · have hskips : r.skips = true := by
          rw [skips, hskipping, Bool.true_or]
        rw [List.forall_mem_cons, List.forall_mem_cons]
        exact ⟨hskips, hinnermost, habove⟩
  | stray hd hnil hready =>
      rw [hnil] at hopen
      exact absurd hopen (Nat.not_lt_zero _)
  | closed hd hloops' hskip hready =>
      rw [hloops] at hloops'
      obtain ⟨-, rfl⟩ := List.cons.inj hloops'
      exact ⟨_, hround, hready, h.setup_eq, h.world_eq, above, rfl, habove⟩
  | rewound hd hloops' hskip hfront hbody hready =>
      rw [hloops] at hloops'
      obtain ⟨rfl, -⟩ := List.cons.inj hloops'
      simp [hinnermost] at hskip
  | skipped hopen' hclose hskip hready =>
      exact ⟨_, hround, hready, h.setup_eq, h.world_eq, h.loops_eq⟩
  | acted hopen' hclose hskip hact hready =>
      simp [hskipping] at hskip
  | failed hopen' hclose hskip hact hready =>
      simp [hskipping] at hskip

/-- A run walks through a text as long as more brackets are open than the given loops have. -/
theorem through (x : Text) (h : r.Skimming program setup base w front (x ++ back))
    (hopen : ∀ u d v, x = u ++ d :: v → base.length < (Text.openings (front ++ u)).length) :
    ∃ r' : Run, r.settle.Reaches r'.settle ∧
      r'.Skimming program setup base w (front ++ x) back := by
  induction x generalizing front r with
  | nil =>
      rw [List.append_nil]
      exact ⟨r, .refl _, h⟩
  | cons d x ih =>
      have hfirst := hopen [] d x rfl
      rw [List.append_nil] at hfirst
      obtain ⟨r', hround, h'⟩ := h.round_ok hfirst
      have hlater : ∀ u d' v, x = u ++ d' :: v →
          base.length < (Text.openings (front ++ [d] ++ u)).length := by
        intro u d' v heq
        rw [List.append_assoc, List.singleton_append]
        exact hopen (d :: u) d' v (by rw [heq, List.cons_append])
      obtain ⟨r'', hreaches, h''⟩ := ih h' hlater
      refine ⟨r'', ?_, ?_⟩
      · rw [settle_running h.between]
        exact (Outcome.Reaches.of_round hround).trans hreaches
      · rwa [List.append_assoc, List.singleton_append] at h''

end Skimming

/-! ## Executing -/

/-- A run that executes: none of its open loops is skipped. -/
structure Executing (program : Text) (setup : MachineSetup) (front back : Text) (r : Run) : Prop
    extends r.Ready program front back where
  setup_eq : r.machine.setup = setup
  noSkip : ∀ l ∈ r.machine.loops, l.skip = false

/-- A run without a skipped loop does not skip. -/
theorem Executing.isSkipping_eq (h : r.Executing program setup front back) :
    r.machine.isSkipping = false := by
  rw [Machine.isSkipping]
  cases hloops : r.machine.loops with
  | nil => rfl
  | cons innermost loops =>
      refine h.noSkip innermost ?_
      rw [hloops]
      exact List.mem_cons_self

/-- It skips a loop only if the cell is zero. -/
theorem Executing.skips_eq (h : r.Executing program setup front back) :
    r.skips = (r.world.tape.cell == 0) := by
  rw [skips, h.isSkipping_eq, Bool.false_or]
  rfl

end Run

/-! ## Agreement -/

/-- Where a run and a jump machine agree.  At the end of the program a run has ended in the round
    that led there, while the jump machine has yet to notice. -/
inductive Agrees (program : Text) (setup : MachineSetup) : Outcome → JumpProgress → Prop
  | running {front back : Text} {r : Run} (h : r.Executing program setup front back) :
      Agrees program setup (.running r) (.running ⟨front.length, r.world⟩)
  | ahead {r : Run} {w : World} (hworld : r.world = w.flushed.2) :
      Agrees program setup (.finished w.flushed.1 r) (.running ⟨program.length, w⟩)
  | finished {result : Except MachineError Unit} {r : Run} {w : World} (hworld : r.world = w) :
      Agrees program setup (.finished result r) (.finished result w)

namespace Run

variable {r : Run} {program front back : Text} {setup : MachineSetup} {w : World}

/-- At the end of a round such a run agrees with the jump machine at the same place. -/
theorem Executing.agrees_settle (h : r.Executing program setup front back) :
    Agrees program setup r.settle (.running ⟨front.length, r.world⟩) := by
  cases back with
  | nil =>
      obtain rfl : program = front := by rw [h.text_eq, List.append_nil]
      rw [settle_end h.between]
      exact .ahead r.world_ended
  | cons d back =>
      rw [settle_running h.between]
      exact .running h

/-- While the `[` at which it began is not closed, more brackets are open than before it. -/
theorem Executing.length_loops_lt (h : r.Executing program setup front back) {u v : Text}
    (hmem : front ∈ Text.openings (front ++ '[' :: (u ++ v))) :
    r.machine.loops.length < (Text.openings (front ++ ['['] ++ u)).length := by
  have hsplit : front ++ '[' :: (u ++ v) = (front ++ ['['] ++ u) ++ v := by
    simp
  rw [hsplit] at hmem
  rw [h.length_loops]
  exact Text.length_openings_lt (Text.mem_openings_of_append hmem (by simp))

/-- At a `[` on a zero cell a run begins to skip. -/
theorem Executing.skimming (h : r.Executing program setup front ('[' :: back))
    (hzero : r.world.tape.cell = 0) :
    (r.opened front.width).Skimming program setup r.machine.loops r.world
      (front ++ ['[']) back where
  toReady := h.toReady.opened
  setup_eq := h.setup_eq
  world_eq := rfl
  loops_eq := by
    refine ⟨[⟨front.width, r.skips⟩], rfl, fun l hl => ?_⟩
    obtain rfl := List.mem_singleton.mp hl
    show r.skips = true
    rw [h.skips_eq, hzero]
    rfl

/-- A loop that is closed is walked through up to its `]`. -/
theorem Executing.skip_closed {body : Text}
    (h : r.Executing program setup front ('[' :: (body ++ ']' :: back)))
    (hbody : Text.Balanced body) (hzero : r.world.tape.cell = 0) :
    ∃ r' : Run, (r.opened front.width).settle.Reaches r'.settle ∧
      r'.Executing program setup ((front ++ '[' :: body) ++ [']']) back ∧ r'.world = r.world := by
  have hback : body ++ ']' :: back = (body ++ [']']) ++ back := by
    simp
  have hskimming := h.skimming hzero
  rw [hback] at hskimming
  have hopen : ∀ u d v, body ++ [']'] = u ++ d :: v →
      r.machine.loops.length < (Text.openings (front ++ ['['] ++ u)).length := by
    intro u d v heq
    -- what is read before the last character is read before the `]`
    have hshort : u <+: body := by
      refine List.prefix_of_prefix_length_le ⟨d :: v, heq.symm⟩ (List.prefix_append body [']']) ?_
      have hlength := congrArg List.length heq
      simp only [List.length_append, List.length_cons, List.length_nil] at hlength
      omega
    obtain ⟨v', rfl⟩ := hshort
    refine h.length_loops_lt (v := v') ?_
    rw [Text.openings_append_open hbody]
    exact List.mem_cons_self
  obtain ⟨r', hreaches, h'⟩ := hskimming.through _ hopen
  have hfront : front ++ ['['] ++ (body ++ [']']) = (front ++ '[' :: body) ++ [']'] := by
    simp
  rw [hfront] at h'
  refine ⟨r', hreaches, ⟨h'.toReady, h'.setup_eq, ?_⟩, h'.world_eq⟩
  -- as many brackets are open as before the walk, so none of its own loops is left
  obtain ⟨above, hloops, -⟩ := h'.loops_eq
  have hlength := h'.length_loops
  rw [Text.openings_close, Text.openings_append_open hbody, List.tail_cons, ← h.length_loops,
    hloops, List.length_append] at hlength
  obtain rfl := List.eq_nil_of_length_eq_zero (show above.length = 0 by omega)
  rw [hloops]
  exact h.noSkip

/-- A loop that is not closed is walked through up to the end of the program. -/
theorem Executing.skip_unclosed (h : r.Executing program setup front ('[' :: back))
    (hnone : ∀ inner rest, back = inner ++ ']' :: rest → ¬ Text.Balanced inner)
    (hzero : r.world.tape.cell = 0) :
    ∃ r' : Run, (r.opened front.width).settle.Reaches (.finished r.world.flushed.1 r') ∧
      r'.world = r.world.flushed.2 := by
  have hskimming := h.skimming hzero
  rw [← List.append_nil back] at hskimming
  have hopen : ∀ u d v, back = u ++ d :: v →
      r.machine.loops.length < (Text.openings (front ++ ['['] ++ u)).length := by
    rintro u d v rfl
    exact h.length_loops_lt (Text.mem_openings_iff.mpr ⟨_, rfl, hnone⟩)
  obtain ⟨r', hreaches, h'⟩ := hskimming.through _ hopen
  rw [settle_end h'.between, h'.world_eq] at hreaches
  refine ⟨r'.ended, hreaches, ?_⟩
  rw [world_ended, h'.world_eq]

/-- A walk through a loop ends where the jump machine jumps to. -/
theorem Executing.skip_loop (h : r.Executing program setup front ('[' :: back))
    (hzero : r.world.tape.cell = 0) :
    ∃ o, (r.opened front.width).settle.Reaches o ∧
      Agrees program setup o
        (.running ⟨(JumpMachine.ofProgram program setup.inputEnd).afterLoop front.length,
          r.world⟩) := by
  obtain rfl := h.text_eq
  by_cases hclosed : ∃ body rest, back = body ++ ']' :: rest ∧ Text.Balanced body
  · obtain ⟨body, rest, rfl, hbody⟩ := hclosed
    obtain ⟨r', hreaches, h', hworld⟩ := h.skip_closed hbody hzero
    refine ⟨r'.settle, hreaches, ?_⟩
    have hagrees := h'.agrees_settle
    rw [List.length_append, List.length_singleton, hworld] at hagrees
    rw [JumpMachine.afterLoop_of_balanced hbody]
    exact hagrees
  · have hnone : ∀ inner rest, back = inner ++ ']' :: rest → ¬ Text.Balanced inner :=
      fun inner rest heq hinner => hclosed ⟨inner, rest, heq, hinner⟩
    obtain ⟨r', hreaches, hworld⟩ := h.skip_unclosed hnone hzero
    refine ⟨_, hreaches, ?_⟩
    rw [JumpMachine.afterLoop_of_unclosed hnone]
    exact .ahead hworld

/-! ## One step -/

/-- A run that executes answers a stage of the jump machine: one round, and a walk if the jump
    machine jumps over a loop, lead to where that machine stands after its step. -/
def Follows (program : Text) (setup : MachineSetup) (front : Text) (r : Run) : Prop :=
  ∃ o o', r.round = .ok o ∧ o.Reaches o' ∧
    Agrees program setup o'
      ((JumpMachine.ofProgram program setup.inputEnd).step ⟨front.length, r.world⟩)

namespace Executing

/-- At the end of the program a run ends, and so does the jump machine. -/
theorem follows_end (h : r.Executing program setup front []) : r.Follows program setup front := by
  obtain rfl : program = front := by rw [h.text_eq, List.append_nil]
  refine ⟨_, _, h.round_end, .refl _, ?_⟩
  rw [settle_end h.between, JumpMachine.step_end]
  exact .finished r.world_ended

/-- At a `[` the current cell decides whether a loop is entered or passed. -/
theorem follows_open (h : r.Executing program setup front ('[' :: back)) :
    r.Follows program setup front := by
  have hround := h.round_open
  by_cases hzero : r.world.tape.cell = 0
  · obtain ⟨o, hreaches, hagrees⟩ := h.skip_loop hzero
    refine ⟨_, o, hround, hreaches, ?_⟩
    rw [JumpMachine.step_jump h.text_eq hzero]
    exact hagrees
  · have hskips : r.skips = false := by
      rw [h.skips_eq]
      exact beq_false_of_ne hzero
    have hopened : (r.opened front.width).Executing program setup (front ++ ['[']) back :=
      ⟨h.toReady.opened, h.setup_eq, List.forall_mem_cons.mpr ⟨hskips, h.noSkip⟩⟩
    have hagrees := hopened.agrees_settle
    rw [List.length_append, List.length_singleton] at hagrees
    refine ⟨_, _, hround, .refl _, ?_⟩
    rw [JumpMachine.step_enter h.text_eq hzero]
    exact hagrees

/-- At a `]` a run goes back to the `[` that the jump machine finds in its table, or both fail. -/
theorem follows_close (h : r.Executing program setup front (']' :: back)) :
    r.Follows program setup front := by
  have hprogram := h.text_eq
  cases hloops : r.machine.loops with
  | nil =>
      have hnil := h.openings_eq_nil hloops
      refine ⟨_, _, h.round_stray hnil, .refl _, ?_⟩
      rw [JumpMachine.step_stray hprogram (hprogram ▸ JumpMachine.opening?_of_stray hnil)]
      exact .finished rfl
  | cons innermost loops =>
      have hnoSkip := h.noSkip
      rw [hloops, List.forall_mem_cons] at hnoSkip
      obtain ⟨before, body, rfl, hbody, hstart, houter⟩ := h.innermost_start hloops
      have hready := h.toReady.rewound houter
      have hopening : (JumpMachine.ofProgram program setup.inputEnd).opening?
          (before ++ '[' :: body).length = some before.length := by
        rw [hready.text_eq]
        exact JumpMachine.opening?_of_balanced hbody
      refine ⟨_, _, h.round_rewind hloops hnoSkip.1 hstart houter, .refl _, ?_⟩
      rw [JumpMachine.step_back hprogram hopening]
      exact .running ⟨hready, h.setup_eq, hnoSkip.2⟩

/-- What is no bracket does the same in both. -/
theorem follows_plain {d : Char} (h : r.Executing program setup front (d :: back))
    (hopen : d ≠ '[') (hclose : d ≠ ']') : r.Follows program setup front := by
  cases hact : r.world.act setup.inputEnd d with
  | mk failure w =>
      have hvalid : w.tape.Valid := by
        have hkept : (r.world.act setup.inputEnd d).2.tape.Valid := World.valid_act h.tape _ d
        rwa [hact] at hkept
      have hact' : r.world.act (JumpMachine.ofProgram program setup.inputEnd).inputEnd d
          = (failure, w) := hact
      rw [← h.setup_eq] at hact
      rw [Follows, JumpMachine.step_plain h.text_eq hopen hclose, hact']
      cases failure with
      | none =>
          have hacted : (r.acted d w).Executing program setup (front ++ [d]) back :=
            ⟨h.toReady.acted hopen hclose hvalid, h.setup_eq, h.noSkip⟩
          have hagrees := hacted.agrees_settle
          rw [List.length_append, List.length_singleton] at hagrees
          exact ⟨_, _, h.round_act hopen hclose h.isSkipping_eq hact, .refl _, hagrees⟩
      | some failure =>
          exact ⟨_, _, h.round_fail hopen hclose h.isSkipping_eq hact, .refl _, .finished rfl⟩

/-- Wherever a run that executes stands, it follows the jump machine. -/
theorem follows (h : r.Executing program setup front back) : r.Follows program setup front := by
  cases back with
  | nil => exact h.follows_end
  | cons d back =>
      by_cases hopen : d = '['
      · subst hopen
        exact h.follows_open
      by_cases hclose : d = ']'
      · subst hclose
        exact h.follows_close
      · exact h.follows_plain hopen hclose

end Executing

/-- A run that executes starts so: no loop of an earlier run is left. -/
theorem executing_start {m : Machine} (fits : m.program.width < wordLimit) (htape : m.tape.Valid)
    (reader : Reader) (writer : Writer) :
    (m.start reader writer).Executing m.program m.setup [] m.program where
  toReady := ready_start fits htape reader writer
  setup_eq := rfl
  noSkip := fun _ hl => absurd hl List.not_mem_nil

end Run

/-! ## All steps -/

namespace Agrees

variable {program : Text} {setup : MachineSetup} {o : Outcome} {p : JumpProgress}

/-- Agreement lasts for any number of steps, and a run that goes on has made as many rounds at
    least. -/
theorem simulates (h : Agrees program setup o p) (n : Nat) :
    ∃ rounds o', o.runFor rounds = .ok o' ∧
      Agrees program setup o' ((JumpMachine.ofProgram program setup.inputEnd).next^[n] p) ∧
      ∀ r, o' = .running r → n ≤ rounds := by
  induction n with
  | zero =>
      obtain ⟨rounds, hrounds⟩ := Outcome.Reaches.refl o
      exact ⟨rounds, o, hrounds, h, fun _ _ => Nat.zero_le _⟩
  | succ n ih =>
      obtain ⟨rounds, o', hrun, hagrees, hcount⟩ := ih
      rw [Function.iterate_succ_apply']
      generalize (JumpMachine.ofProgram program setup.inputEnd).next^[n] p = p' at hagrees ⊢
      cases hagrees with
      | @running front back r hexec =>
          obtain ⟨o₁, o₂, hround, ⟨walk, hwalk⟩, hagrees⟩ := hexec.follows
          refine ⟨rounds + (walk + 1), o₂, ?_, hagrees, fun r' hr' => ?_⟩
          · rw [Outcome.runFor_add hrun]
            show r.runFor (walk + 1) = _
            rw [Run.runFor_succ hround, hwalk]
          · have := hcount r rfl
            omega
      | @ahead r w hworld =>
          refine ⟨rounds, _, hrun, ?_, nofun⟩
          show Agrees program setup _ (JumpMachine.step _ _)
          rw [JumpMachine.step_end]
          exact .finished hworld
      | finished hworld => exact ⟨rounds, _, hrun, .finished hworld, nofun⟩

/-- Where a run ends, the jump machine ends. -/
theorem walk_ends (h : Agrees program setup o p) {rounds : Nat}
    {result : Except MachineError Unit} {r : Run}
    (hrun : o.runFor rounds = .ok (.finished result r)) :
    ∃ steps, (JumpMachine.ofProgram program setup.inputEnd).next^[steps] p
      = .finished result r.world := by
  obtain ⟨rounds', o', hrun', hagrees, hcount⟩ := h.simulates rounds
  -- after as many steps the run is over, for else it would have gone on for as many rounds
  have hended : o' = .finished result r := by
    rcases Nat.le_total rounds rounds' with hle | hle
    · exact Outcome.eq_of_runFor_finished hrun hrun' hle
    · cases o' with
      | running r' =>
          obtain rfl : rounds = rounds' := Nat.le_antisymm (hcount r' rfl) hle
          exact Except.ok.inj (hrun'.symm.trans hrun)
      | finished result' r' => exact (Outcome.eq_of_runFor_finished hrun' hrun hle).symm
  subst hended
  generalize hstage : (JumpMachine.ofProgram program setup.inputEnd).next^[rounds] p = p'
    at hagrees
  cases hagrees with
  | @ahead r w hworld =>
      -- at the end of the program the jump machine needs one more step
      refine ⟨rounds + 1, ?_⟩
      rw [Function.iterate_succ_apply', hstage, hworld]
      exact JumpMachine.step_end program w
  | finished hworld => exact ⟨rounds, by rw [hstage, hworld]⟩

/-- Where the jump machine ends, a run ends. -/
theorem jump_ends (h : Agrees program setup o p) {steps : Nat}
    {result : Except MachineError Unit} {w : World}
    (hsteps : (JumpMachine.ofProgram program setup.inputEnd).next^[steps] p = .finished result w) :
    ∃ rounds r, o.runFor rounds = .ok (.finished result r) ∧ r.world = w := by
  obtain ⟨rounds, o', hrun, hagrees, -⟩ := h.simulates steps
  rw [hsteps] at hagrees
  cases hagrees with
  | @finished _ r _ hworld => exact ⟨rounds, r, hrun, hworld⟩

end Agrees

namespace Machine

/-- **WALKING IS JUMPING**: over every program, tape, input and output a run ends if and only if
    the jump machine does, and then with the same result, the same tape and pointer, and the same
    input and output left behind.  On the way no run meets a fault. -/
theorem refines_jump_machine {m : Machine} (fits : m.program.width < wordLimit)
    (htape : m.tape.Valid) (reader : Reader) (writer : Writer) :
    (∀ result w,
      (∃ rounds r, (m.start reader writer).runFor rounds = .ok (.finished result r) ∧
        r.world = w) ↔
      ∃ steps, (JumpMachine.ofProgram m.program m.setup.inputEnd).next^[steps]
        (.running ⟨0, ⟨m.tape, reader, writer⟩⟩) = .finished result w) ∧
    ∀ rounds, ∃ o, (m.start reader writer).runFor rounds = .ok o := by
  have hstart : Agrees m.program m.setup (.running (m.start reader writer))
      (.running ⟨0, ⟨m.tape, reader, writer⟩⟩) :=
    .running (Run.executing_start fits htape reader writer)
  refine ⟨fun result w => ⟨?_, ?_⟩, fun rounds => ?_⟩
  · rintro ⟨rounds, r, hrun, rfl⟩
    exact hstart.walk_ends hrun
  · rintro ⟨steps, hsteps⟩
    exact hstart.jump_ends hsteps
  · obtain ⟨o, hok, -⟩ := (Run.onCourse_start fits htape reader writer).runFor_ok rounds
    exact ⟨o, hok⟩

/-- A text with two loops, a character of two bytes and a stray bracket, on a machine with two
    cells that points at the second one and that an earlier run has left inside a loop: twelve
    steps of the jump machine show that a run ends at the offset 8 with the second cell at 0. -/
theorem refines_jump_machine_on_two_cells :
    Text.width ['+', '[', '-', 'é', ']', '[', ']', ']'] < wordLimit ∧
      Tape.Valid ⟨#[0, 1], 1⟩ ∧
      ∃ rounds r,
        (start ⟨['+', '[', '-', 'é', ']', '[', ']', ']'], MachineSetup.standard, ⟨#[0, 1], 1⟩,
          [⟨7, true⟩]⟩ (Reader.ofBytes [5]) Writer.accepting).runFor rounds
            = .ok (.finished (.error (.unmatchedLoopEnd 8)) r) ∧
        r.world = ⟨⟨#[0, 0], 1⟩, Reader.ofBytes [5], Writer.accepting⟩ := by
  have fits : Text.width ['+', '[', '-', 'é', ']', '[', ']', ']'] < wordLimit := by decide
  have htape : Tape.Valid ⟨#[0, 1], 1⟩ := ⟨by decide, by decide⟩
  exact ⟨fits, htape, ((refines_jump_machine fits htape _ _).1 _ _).mpr ⟨12, rfl⟩⟩

end Machine

end TextCursor
