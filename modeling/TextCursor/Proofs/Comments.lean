import TextCursor.Proofs.OngoingRuns

/-! # Comments never matter

    A character that is none of the eight instructions does nothing, wherever it
    stands.  So a program does what its instructions do, and only the offsets that
    it reports are others: those of the instructions in the text with the comments.

    `Run.Mirrors` puts a run next to one over the instructions alone: the second one
    has read the instructions of what the first one has read, and both have the
    same world, the same loops skipped, and the same events reported, retold with
    the other offsets.  Comments keep it without a round of the second run
    (`Mirrors.comment`), and instructions with one round of both (`Mirrors.follows`).

    The second run may end at once where the first one still has comments before it.
    Therefore the two are compared when the first one has passed its comments
    (`Mirrors.settles`), and `Outcome.Mirrors.simulates` counts rounds, so that
    neither of the two can go on where the other ends. -/

namespace TextCursor

/-! ## The instructions of a program -/

namespace Text

/-- Whether a character is one of the eight instructions. -/
def isInstruction (c : Char) : Bool :=
  ['>', '<', '+', '-', '.', ',', '[', ']'].contains c

/-- A program without its comments. -/
def instructions (program : Text) : Text :=
  program.filter isInstruction

/-- An instruction stands at a byte offset of a program, and at an index among its instructions. -/
def InstructionAt (program : Text) (offset index : Nat) : Prop :=
  ∃ front c back, program = front ++ c :: back ∧ isInstruction c = true ∧
    front.width = offset ∧ (instructions front).length = index

variable {front back program : Text} {c : Char}

/-- The instructions of two texts are those of the first one and those of the second one. -/
@[simp] theorem instructions_append (front back : Text) :
    instructions (front ++ back) = instructions front ++ instructions back := by
  simp [instructions]

theorem instructions_cons (h : isInstruction c = true) (t : Text) :
    instructions (c :: t) = c :: instructions t :=
  List.filter_cons_of_pos h

theorem instructions_comment (h : isInstruction c = false) (t : Text) :
    instructions (c :: t) = instructions t := by
  simp [instructions, h]

/-- All instructions are written with one byte. -/
theorem utf8Size_of_isInstruction (h : isInstruction c = true) : c.utf8Size = 1 := by
  simp only [isInstruction, List.contains_eq_mem, decide_eq_true_eq, List.mem_cons,
    List.not_mem_nil, or_false] at h
  rcases h with rfl | rfl | rfl | rfl | rfl | rfl | rfl | rfl <;> rfl

/-- Among instructions, byte offsets are indices. -/
theorem width_instructions (t : Text) : width (instructions t) = (instructions t).length := by
  induction t with
  | nil => rfl
  | cons c t ih =>
      cases h : isInstruction c with
      | true =>
          rw [instructions_cons h, width_cons, List.length_cons, ih, utf8Size_of_isInstruction h]
          exact Nat.add_comm 1 _
      | false => rw [instructions_comment h, ih]

/-- Leaving out comments makes a text no wider. -/
theorem width_instructions_le (t : Text) : width (instructions t) ≤ width t := by
  induction t with
  | nil => exact Nat.le_refl 0
  | cons c t ih =>
      cases h : isInstruction c with
      | true =>
          rw [instructions_cons h, width_cons, width_cons]
          omega
      | false =>
          rw [instructions_comment h, width_cons]
          omega

/-- What is open in a program is open in its instructions. -/
theorem openings_instructions (t : Text) :
    openings (instructions t) = (openings t).map instructions := by
  induction t using List.reverseRecOn with
  | nil => rfl
  | append_singleton t c ih =>
      rw [instructions_append]
      by_cases hopen : c = '['
      · subst hopen
        rw [openings_open, List.map_cons, ← ih]
        exact openings_open (instructions t)
      by_cases hclose : c = ']'
      · subst hclose
        rw [openings_close, List.map_tail, ← ih]
        exact openings_close (instructions t)
      rw [openings_plain t hopen hclose, ← ih]
      cases h : isInstruction c with
      | true =>
          rw [instructions_cons h]
          exact openings_plain (instructions t) hopen hclose
      | false =>
          rw [instructions_comment h]
          exact congrArg openings (List.append_nil _)

end Text

/-- A comment does nothing. -/
theorem World.act_comment {c : Char} (h : Text.isInstruction c = false) (inputEnd : EndOfInput)
    (w : World) : w.act inputEnd c = (none, w) := by
  unfold act
  split
  · exact absurd h (by decide)
  · exact absurd h (by decide)
  · exact absurd h (by decide)
  · exact absurd h (by decide)
  · exact absurd h (by decide)
  · exact absurd h (by decide)
  · rfl

/-! ## Reports with other offsets -/

/-- An event of a program, and the same event as the instructions alone report it. -/
inductive MachineEvent.Retold (program : Text) : MachineEvent → MachineEvent → Prop
  | loopStart {start index : Nat} (skip : Bool) (h : program.InstructionAt start index) :
      Retold program (.loopStart start skip) (.loopStart index skip)
  | loopRewind {start index : Nat} (h : program.InstructionAt start index) :
      Retold program (.loopRewind start) (.loopRewind index)
  | unmatchedEnd {offset index : Nat} (h : program.InstructionAt offset index) :
      Retold program (.unmatchedEnd offset) (.unmatchedEnd index)
  | endedInside (loops : Nat) : Retold program (.endedInside loops) (.endedInside loops)

/-- An error of a program, and the same error as the instructions alone report it. -/
inductive MachineError.Retold (program : Text) : MachineError → MachineError → Prop
  | unmatchedLoopEnd {offset index : Nat} (h : program.InstructionAt offset index) :
      Retold program (.unmatchedLoopEnd offset) (.unmatchedLoopEnd index)
  | io (failure : IoFailure) : Retold program (.io failure) (.io failure)

/-- What a program comes to, and what its instructions alone come to: both end in the same world,
    well or with the same error, or both go on for ever. -/
inductive Fate.Retold (program : Text) : Fate → Fate → Prop
  | succeeded (w : World) : Retold program (.ended (.ok ()) w) (.ended (.ok ()) w)
  | failed {error error' : MachineError} (h : error.Retold program error') (w : World) :
      Retold program (.ended (.error error) w) (.ended (.error error') w)
  | endless : Retold program .endless .endless

/-- A fate and how it is retold leave the same world. -/
theorem Fate.Retold.world_eq {program : Text} {result result' : Except MachineError Unit}
    {w w' : World} (h : Fate.Retold program (.ended result w) (.ended result' w')) : w = w' := by
  cases h with
  | succeeded w => rfl
  | failed h w => rfl

/-- A flush is no instruction, and fails alike. -/
theorem Fate.retold_flushed (program : Text) (w : World) :
    Retold program (.ended w.flushed.1 w.flushed.2) (.ended w.flushed.1 w.flushed.2) := by
  cases hflush : w.flushed.1 with
  | ok _ => exact .succeeded _
  | error error =>
      obtain ⟨tape, reader, ⟨script, ⟨⟩ | failure, accepted, flushes⟩⟩ := w
      · exact nomatch hflush
      · obtain rfl := Except.error.inj hflush
        exact .failed (.io failure) _

/-! ## Runs with and without comments -/

/-- A run, and one over the instructions alone that is as far. -/
structure Run.Mirrors (program front back : Text) (r q : Run) : Prop where
  ready : r.Ready program front back
  mirrored : q.Ready program.instructions front.instructions back.instructions
  setup_eq : r.machine.setup = q.machine.setup
  world_eq : r.world = q.world
  skips_eq : r.machine.loops.map OpenLoop.skip = q.machine.loops.map OpenLoop.skip
  retold : List.Forall₂ (MachineEvent.Retold program) r.log.toList q.log.toList

/-- Outcomes of a run and of one over the instructions alone, where no comment is left that the
    first one has yet to pass. -/
inductive Outcome.Mirrors (program : Text) : Outcome → Outcome → Prop
  | running {front back : Text} {c : Char} {r q : Run} (hc : Text.isInstruction c = true)
      (h : r.Mirrors program front (c :: back) q) : Mirrors program (.running r) (.running q)
  | finished {result result' : Except MachineError Unit} {r q : Run}
      (hfate : Fate.Retold program (.ended result r.world) (.ended result' q.world))
      (hretold : List.Forall₂ (MachineEvent.Retold program) r.log.toList q.log.toList) :
      Mirrors program (.finished result r) (.finished result' q)

/-- Whether a machine skips is told by its innermost open loop, if there is one. -/
theorem Machine.isSkipping_eq_head? (m : Machine) :
    m.isSkipping = (m.loops.map OpenLoop.skip).head?.getD false := by
  rw [isSkipping]
  cases m.loops <;> rfl

namespace Run.Mirrors

variable {r q : Run} {program front back : Text} {c : Char}

/-- Both runs skip or both execute. -/
theorem isSkipping_eq (h : r.Mirrors program front back q) :
    r.machine.isSkipping = q.machine.isSkipping := by
  rw [Machine.isSkipping_eq_head?, Machine.isSkipping_eq_head?, h.skips_eq]

theorem mirrored_skips (h : r.Mirrors program front back q) : r.skips = q.skips := by
  have htape : r.machine.tape = q.machine.tape := congrArg World.tape h.world_eq
  rw [skips, skips, h.isSkipping_eq, htape]

/-- One more event for both. -/
theorem retold_push (h : r.Mirrors program front back q) {event event' : MachineEvent}
    (hevent : event.Retold program event') :
    List.Forall₂ (MachineEvent.Retold program) (r.log.push event).toList
      (q.log.push event').toList := by
  rw [Array.toList_push, Array.toList_push]
  exact List.rel_append h.retold (.cons hevent .nil)

/-- The instruction before the cursor, and its index. -/
theorem instructionAt (h : r.Mirrors program front (c :: back) q)
    (hc : Text.isInstruction c = true) :
    program.InstructionAt front.width (Text.width front.instructions) :=
  ⟨front, c, back, h.ready.text_eq, hc, rfl, (Text.width_instructions front).symm⟩

/-- At an instruction both runs stand before it. -/
theorem mirrored_cons (h : r.Mirrors program front (c :: back) q)
    (hc : Text.isInstruction c = true) :
    q.Ready program.instructions front.instructions (c :: back.instructions) := by
  have hmirrored := h.mirrored
  rwa [Text.instructions_cons hc] at hmirrored

/-- What is read by both is an instruction more. -/
theorem instructions_snoc (hc : Text.isInstruction c = true) (front : Text) :
    Text.instructions (front ++ [c]) = front.instructions ++ [c] := by
  rw [Text.instructions_append, Text.instructions_cons hc]
  rfl

/-- Where the first run has loops open, so has the second one, and skips them alike. -/
theorem exists_innermost (h : r.Mirrors program front back q) {innermost : OpenLoop}
    {loops : List OpenLoop} (hloops : r.machine.loops = innermost :: loops) :
    ∃ innermost' loops', q.machine.loops = innermost' :: loops' ∧
      innermost'.skip = innermost.skip ∧
      loops'.map OpenLoop.skip = loops.map OpenLoop.skip := by
  have hskips := h.skips_eq
  rw [hloops, List.map_cons] at hskips
  exact List.map_eq_cons_iff.mp hskips.symm

/-- The loops of the second run began at the instructions at which those of the first one did. -/
theorem starts_mirrored {before body : Text} (h : r.Mirrors program (before ++ '[' :: body) back q)
    (hbody : Text.Balanced body) {innermost : OpenLoop} {loops : List OpenLoop}
    (hloops : q.machine.loops = innermost :: loops) :
    innermost.start = Text.width before.instructions ∧
      loops.map OpenLoop.start = (Text.openings before.instructions).map Text.width := by
  have hstarts := h.mirrored.starts
  rw [Text.openings_instructions, Text.openings_append_open hbody, hloops, List.map_cons,
    List.map_cons, List.map_cons, ← Text.openings_instructions] at hstarts
  exact List.cons.inj hstarts

/-! ## One instruction of both -/

/-- Both runs open a loop at the same instruction. -/
theorem opened (h : r.Mirrors program front ('[' :: back) q) :
    (r.opened front.width).Mirrors program (front ++ ['[']) back
      (q.opened (Text.width front.instructions)) := by
  have hc : Text.isInstruction '[' = true := by decide
  refine ⟨h.ready.opened, ?_, h.setup_eq, h.world_eq, ?_, ?_⟩
  · rw [instructions_snoc hc]
    exact (h.mirrored_cons hc).opened
  · show r.skips :: r.machine.loops.map OpenLoop.skip
      = q.skips :: q.machine.loops.map OpenLoop.skip
    rw [h.mirrored_skips, h.skips_eq]
  · rw [Run.opened, Run.opened, h.mirrored_skips]
    exact h.retold_push (.loopStart q.skips (h.instructionAt hc))

/-- Both runs close a skipped loop. -/
theorem closed (h : r.Mirrors program front (']' :: back) q) {innermost innermost' : OpenLoop}
    {loops loops' : List OpenLoop} (hloops : r.machine.loops = innermost :: loops)
    (hloops' : q.machine.loops = innermost' :: loops')
    (houter : loops'.map OpenLoop.skip = loops.map OpenLoop.skip) :
    (r.closed loops).Mirrors program (front ++ [']']) back (q.closed loops') := by
  have hc : Text.isInstruction ']' = true := by decide
  refine ⟨h.ready.closed hloops, ?_, h.setup_eq, h.world_eq, houter.symm, h.retold⟩
  rw [instructions_snoc hc]
  exact (h.mirrored_cons hc).closed hloops'

/-- Both runs go back to the start of the same loop. -/
theorem rewound {before body : Text}
    (h : r.Mirrors program (before ++ '[' :: body) (']' :: back) q) {loops loops' : List OpenLoop}
    (hstarts : loops.map OpenLoop.start = (Text.openings before).map Text.width)
    (hstarts' : loops'.map OpenLoop.start = (Text.openings before.instructions).map Text.width)
    (houter : loops'.map OpenLoop.skip = loops.map OpenLoop.skip) :
    (r.rewound before.width loops).Mirrors program before ('[' :: (body ++ ']' :: back))
      (q.rewound (Text.width before.instructions) loops') := by
  have hat : program.InstructionAt before.width (Text.width before.instructions) := by
    refine ⟨before, '[', body ++ ']' :: back, ?_, by decide, rfl,
      (Text.width_instructions before).symm⟩
    simpa using h.ready.text_eq
  have hmirrored := h.mirrored_cons (by decide)
  rw [Text.instructions_append, Text.instructions_cons (by decide)] at hmirrored
  refine ⟨h.ready.rewound hstarts, ?_, h.setup_eq, h.world_eq, houter.symm,
    h.retold_push (.loopRewind hat)⟩
  rw [Text.instructions_cons (by decide), Text.instructions_append,
    Text.instructions_cons (by decide)]
  exact hmirrored.rewound hstarts'

/-- An instruction that is no bracket, whatever it makes of the world of both. -/
theorem acted (h : r.Mirrors program front (c :: back) q) (hc : Text.isInstruction c = true)
    (hopen : c ≠ '[') (hclose : c ≠ ']') {w : World} (hw : w.tape.Valid) :
    (r.acted c w).Mirrors program (front ++ [c]) back (q.acted c w) := by
  refine ⟨h.ready.acted hopen hclose hw, ?_, h.setup_eq, rfl, h.skips_eq, h.retold⟩
  rw [instructions_snoc hc]
  exact (h.mirrored_cons hc).acted hopen hclose hw

/-- Both runs pass an instruction that they skip. -/
theorem passed (h : r.Mirrors program front (c :: back) q) (hc : Text.isInstruction c = true)
    (hopen : c ≠ '[') (hclose : c ≠ ']') :
    (r.passed c).Mirrors program (front ++ [c]) back (q.passed c) := by
  refine ⟨h.ready.passed hopen hclose, ?_, h.setup_eq, h.world_eq, h.skips_eq, h.retold⟩
  rw [instructions_snoc hc]
  exact (h.mirrored_cons hc).passed hopen hclose

/-! ## Comments and the end -/

/-- At the end of the program both runs end. -/
theorem settle_end (h : r.Mirrors program front [] q) : r.settle.Mirrors program q.settle := by
  have hlength : r.machine.loops.length = q.machine.loops.length := by
    simpa using congrArg List.length h.skips_eq
  have hempty : r.machine.loops.isEmpty = q.machine.loops.isEmpty := by
    rw [Bool.eq_iff_iff, List.isEmpty_iff_length_eq_zero, List.isEmpty_iff_length_eq_zero, hlength]
  rw [Run.settle_end h.ready.between, Run.settle_end h.mirrored.between]
  refine .finished ?_ ?_
  · rw [world_ended, world_ended, ← h.world_eq]
    exact Fate.retold_flushed program r.world
  · rw [log_ended, log_ended, hempty, hlength]
    split
    · exact h.retold
    · exact h.retold_push (.endedInside _)

/-- A comment is passed by the first run, and the second one does not see it. -/
theorem comment (h : r.Mirrors program front (c :: back) q) (hc : Text.isInstruction c = false) :
    r.round = .ok (r.passed c).settle ∧ (r.passed c).Mirrors program (front ++ [c]) back q := by
  have hopen : c ≠ '[' := by
    rintro rfl
    exact absurd hc (by decide)
  have hclose : c ≠ ']' := by
    rintro rfl
    exact absurd hc (by decide)
  constructor
  · cases hskip : r.machine.isSkipping with
    | true => exact h.ready.round_skip hopen hclose hskip
    | false => exact h.ready.round_act hopen hclose hskip (World.act_comment hc _ _)
  · have hfront : Text.instructions (front ++ [c]) = front.instructions := by
      rw [Text.instructions_append, Text.instructions_comment hc]
      exact List.append_nil _
    have hmirrored := h.mirrored
    rw [Text.instructions_comment hc, ← hfront] at hmirrored
    exact ⟨h.ready.passed hopen hclose, hmirrored, h.setup_eq, h.world_eq, h.skips_eq, h.retold⟩

/-- The first run passes the comments that it has before it, and then both go on or both end. -/
theorem settles (h : r.Mirrors program front back q) :
    ∃ o, r.settle.Reaches o ∧ o.Mirrors program q.settle := by
  induction back generalizing front r with
  | nil => exact ⟨_, .refl _, h.settle_end⟩
  | cons c back ih =>
      rw [settle_running h.ready.between]
      cases hc : Text.isInstruction c with
      | true =>
          rw [settle_running (h.mirrored_cons hc).between]
          exact ⟨_, .refl _, .running hc h⟩
      | false =>
          obtain ⟨hround, hpassed⟩ := h.comment hc
          obtain ⟨o, hreaches, hmirrors⟩ := ih hpassed
          exact ⟨o, (Outcome.Reaches.of_round hround).trans hreaches, hmirrors⟩

/-! ## One round -/

/-- Both runs execute the instruction before them: one round each, and a walk of the first one
    through comments, lead to outcomes of which one mirrors the other. -/
def Follows (program : Text) (r q : Run) : Prop :=
  ∃ o o' u, r.round = .ok o ∧ o.Reaches o' ∧ q.round = .ok u ∧ o'.Mirrors program u

/-- Where both runs go on, or come to the end of their programs. -/
theorem follows_of_settle {r' q' : Run} (h : r'.Mirrors program front back q')
    (hround : r.round = .ok r'.settle) (hround' : q.round = .ok q'.settle) :
    Follows program r q := by
  obtain ⟨o, hreaches, hmirrors⟩ := h.settles
  exact ⟨_, o, _, hround, hreaches, hround', hmirrors⟩

/-- A `[` opens a loop for both. -/
theorem follows_open (h : r.Mirrors program front ('[' :: back) q) : Follows program r q :=
  h.opened.follows_of_settle h.ready.round_open (h.mirrored_cons (by decide)).round_open

/-- A `]` without a `[` fails for both, at the instruction it is. -/
theorem follows_stray (h : r.Mirrors program front (']' :: back) q)
    (hloops : r.machine.loops = []) : Follows program r q := by
  have hat := h.instructionAt (by decide)
  have hnil := h.ready.openings_eq_nil hloops
  have hnil' : Text.openings front.instructions = [] := by
    rw [Text.openings_instructions, hnil]
    rfl
  have hworld : (q.strayed (Text.width front.instructions)).world
      = (r.strayed front.width).world := h.world_eq.symm
  refine ⟨_, _, _, h.ready.round_stray hnil, .refl _,
    (h.mirrored_cons (by decide)).round_stray hnil',
    .finished ?_ (h.retold_push (.unmatchedEnd hat))⟩
  rw [hworld]
  exact .failed (.unmatchedLoopEnd hat) _

/-- A `]` closes a skipped loop, and goes back to the start of one that is executed. -/
theorem follows_close (h : r.Mirrors program front (']' :: back) q) : Follows program r q := by
  have hmirrored := h.mirrored_cons (by decide)
  cases hloops : r.machine.loops with
  | nil => exact h.follows_stray hloops
  | cons innermost loops =>
      obtain ⟨innermost', loops', hloops', hinnermost, houter⟩ := h.exists_innermost hloops
      cases hskip : innermost.skip with
      | true =>
          have hskip' := hinnermost.trans hskip
          exact (h.closed hloops hloops' houter).follows_of_settle
            (h.ready.round_close hloops hskip) (hmirrored.round_close hloops' hskip')
      | false =>
          have hskip' := hinnermost.trans hskip
          obtain ⟨before, body, rfl, hbody, hstart, hstarts⟩ := h.ready.innermost_start hloops
          obtain ⟨hstart', hstarts'⟩ := h.starts_mirrored hbody hloops'
          rw [Text.instructions_append, Text.instructions_cons (by decide)] at hmirrored
          exact ⟨_, _, _, h.ready.round_rewind hloops hskip hstart hstarts, .refl _,
            hmirrored.round_rewind hloops' hskip' hstart' hstarts',
            .running (by decide) (h.rewound hstarts hstarts' houter)⟩

/-- What is no bracket is skipped by both, or does to both worlds the same. -/
theorem follows_plain (h : r.Mirrors program front (c :: back) q)
    (hc : Text.isInstruction c = true) (hopen : c ≠ '[') (hclose : c ≠ ']') :
    Follows program r q := by
  have hmirrored := h.mirrored_cons hc
  cases hskip : r.machine.isSkipping with
  | true =>
      have hskip' := h.isSkipping_eq.symm.trans hskip
      exact (h.passed hc hopen hclose).follows_of_settle (h.ready.round_skip hopen hclose hskip)
        (hmirrored.round_skip hopen hclose hskip')
  | false =>
      have hskip' := h.isSkipping_eq.symm.trans hskip
      rcases hact : r.world.act r.machine.setup.inputEnd c with ⟨failure, w⟩
      have hact' : q.world.act q.machine.setup.inputEnd c = (failure, w) := by
        rw [← h.world_eq, ← h.setup_eq, hact]
      have hw : w.tape.Valid := by
        have hvalid : (r.world.act r.machine.setup.inputEnd c).2.tape.Valid :=
          World.valid_act h.ready.tape _ c
        rwa [hact] at hvalid
      cases failure with
      | none =>
          exact (h.acted hc hopen hclose hw).follows_of_settle
            (h.ready.round_act hopen hclose hskip hact)
            (hmirrored.round_act hopen hclose hskip' hact')
      | some failure =>
          exact ⟨_, _, _, h.ready.round_fail hopen hclose hskip hact, .refl _,
            hmirrored.round_fail hopen hclose hskip' hact', .finished (.failed (.io failure) w)
            h.retold⟩

/-- Whatever the instruction, both runs execute it alike. -/
theorem follows (h : r.Mirrors program front (c :: back) q) (hc : Text.isInstruction c = true) :
    Follows program r q := by
  by_cases hopen : c = '['
  · subst hopen
    exact h.follows_open
  by_cases hclose : c = ']'
  · subst hclose
    exact h.follows_close
  · exact h.follows_plain hc hopen hclose

end Run.Mirrors

/-! ## Whole runs -/

/-- For each number of rounds of the run over the instructions alone, the other one comes to an
    outcome that is mirrored, and not in fewer rounds as long as both go on. -/
theorem Outcome.Mirrors.simulates {program : Text} (rounds : Nat) :
    ∀ {o u : Outcome}, o.Mirrors program u → ∃ more o' u', o.runFor more = .ok o' ∧
      u.runFor rounds = .ok u' ∧ o'.Mirrors program u' ∧
      ∀ q, u' = .running q → rounds ≤ more := by
  induction rounds with
  | zero =>
      intro o u h
      cases h with
      | running hc h => exact ⟨0, _, _, rfl, rfl, .running hc h, fun _ _ => Nat.le_refl 0⟩
      | finished hfate hretold => exact ⟨0, _, _, rfl, rfl, .finished hfate hretold, nofun⟩
  | succ rounds ih =>
      intro o u h
      cases h with
      | finished hfate hretold => exact ⟨0, _, _, rfl, rfl, .finished hfate hretold, nofun⟩
      | @running front back c r q hc h =>
          obtain ⟨o, o', u, hround, ⟨walk, hwalk⟩, hround', hmirrors⟩ := h.follows hc
          obtain ⟨more, o'', u'', hmore, hrounds, hlast, hcount⟩ := ih hmirrors
          refine ⟨walk + more + 1, o'', u'', ?_, ?_, hlast, ?_⟩
          · show r.runFor (walk + more + 1) = _
            rw [Run.runFor_succ hround, Outcome.runFor_add hwalk, hmore]
          · show q.runFor (rounds + 1) = _
            rw [Run.runFor_succ hround', hrounds]
          · intro q' hq'
            have := hcount q' hq'
            omega

/-- What stands in the first of two related lists is related to what stands there in the other. -/
theorem exists_of_forall₂ {α β : Type} {R : α → β → Prop} {xs : List α} {ys : List β}
    (h : List.Forall₂ R xs ys) {k : Nat} {x : α} (hx : xs[k]? = some x) :
    ∃ y, ys[k]? = some y ∧ R x y := by
  induction h generalizing k with
  | nil => exact nomatch hx
  | @cons a b xs ys hab _ ih =>
      cases k with
      | zero =>
          obtain rfl := Option.some.inj hx
          exact ⟨b, rfl, hab⟩
      | succ k => exact ih hx

/-- Outcomes that mirror each other have reported the same. -/
theorem Outcome.Mirrors.retold {program : Text} {o u : Outcome} (h : o.Mirrors program u) :
    List.Forall₂ (MachineEvent.Retold program) o.run.log.toList u.run.log.toList := by
  cases h with
  | running hc h => exact h.retold
  | finished hfate hretold => exact hretold

/-- Outcomes that mirror each other have come to the same world. -/
theorem Outcome.Mirrors.world_eq {program : Text} {o u : Outcome} (h : o.Mirrors program u) :
    o.run.world = u.run.world := by
  cases h with
  | running hc h => exact h.world_eq
  | finished hfate hretold => exact hfate.world_eq

/-- A run that is ready comes to where it settles. -/
theorem Run.Ready.reaches_settle {r : Run} {program front back : Text}
    (h : r.Ready program front back) : ∃ rounds, r.runFor rounds = .ok r.settle := by
  cases back with
  | nil =>
      refine ⟨0 + 1, ?_⟩
      rw [runFor_succ h.round_end, settle_end h.between]
      rfl
  | cons c back =>
      refine ⟨0, ?_⟩
      rw [settle_running h.between]
      rfl

namespace Machine

variable {m : Machine} {reader : Reader} {writer : Writer}

/-- The machine with the instructions of its program alone. -/
def withoutComments (m : Machine) : Machine :=
  { m with program := m.program.instructions }

/-- However long the run over the instructions alone goes on, the run of the program comes to the
    same. -/
theorem exists_mirrored (fits : m.program.width < wordLimit) (htape : m.tape.Valid)
    (reader : Reader) (writer : Writer) (least : Nat) :
    ∃ rounds rounds' o u, (m.start reader writer).runFor rounds = .ok o ∧
      (m.withoutComments.start reader writer).runFor rounds' = .ok u ∧ least ≤ rounds' ∧
      o.Mirrors m.program u ∧ ∀ q, u = .running q → least ≤ rounds := by
  have fits' : m.withoutComments.program.width < wordLimit :=
    Nat.lt_of_le_of_lt (Text.width_instructions_le m.program) fits
  have hready := Run.ready_start fits htape reader writer
  have hready' := Run.ready_start fits' htape reader writer
  have hstart : (m.start reader writer).Mirrors m.program [] m.program
      (m.withoutComments.start reader writer) := ⟨hready, hready', rfl, rfl, rfl, .nil⟩
  obtain ⟨o, ⟨walk, hwalk⟩, hmirrors⟩ := hstart.settles
  obtain ⟨first, hfirst⟩ := hready.reaches_settle
  obtain ⟨first', hfirst'⟩ := hready'.reaches_settle
  obtain ⟨more, o', u', hmore, hleast, hlast, hcount⟩ := hmirrors.simulates least
  refine ⟨first + (walk + more), first' + least, o', u', ?_, ?_, Nat.le_add_left _ _, hlast, ?_⟩
  · rw [Run.runFor_add hfirst, Outcome.runFor_add hwalk, hmore]
  · rw [Run.runFor_add hfirst', hleast]
  · intro q hq
    have := hcount q hq
    omega

/-- However far the run of the program has come, it comes to the same as the run over the
    instructions alone, later or just then. -/
theorem exists_mirrored_later (fits : m.program.width < wordLimit) (htape : m.tape.Valid)
    {least : Nat} {o : Outcome} (hrun : (m.start reader writer).runFor least = .ok o) :
    ∃ rounds rounds' o' u, (m.start reader writer).runFor rounds = .ok o' ∧
      (m.withoutComments.start reader writer).runFor rounds' = .ok u ∧
      o'.Mirrors m.program u ∧ (least ≤ rounds ∨ o' = o) := by
  obtain ⟨rounds, rounds', o', u, hrounds, hrounds', -, hmirrors, hcount⟩ :=
    exists_mirrored fits htape reader writer least
  refine ⟨rounds, rounds', o', u, hrounds, hrounds', hmirrors, ?_⟩
  cases hmirrors with
  | running hc h => exact .inl (hcount _ rfl)
  | finished hfate hretold =>
      rcases Nat.le_total least rounds with hle | hle
      · exact .inl hle
      · exact .inr (Outcome.eq_of_runFor_finished (o := .running _) hrounds hrun hle).symm

/-- The program and its instructions alone write and read the same, for ever if they go on for
    ever. -/
theorem keepsUp_comments (fits : m.program.width < wordLimit) (htape : m.tape.Valid)
    (reader : Reader) (writer : Writer) :
    m.withoutComments.KeepsUp m reader writer ∧ m.KeepsUp m.withoutComments reader writer := by
  constructor
  · intro least o hrun
    obtain ⟨rounds, rounds', o', u, hrounds, hrounds', hmirrors, hlater⟩ :=
      exists_mirrored_later fits htape hrun
    refine ⟨rounds', u, hrounds', ?_⟩
    rw [← hmirrors.world_eq]
    rcases hlater with hle | rfl
    · exact (Run.intact_start htape fits reader writer).before_later hrun hrounds hle
    · exact .refl _
  · intro least u hrun
    have hintact' := Run.intact_start (m := m.withoutComments) htape
      (Nat.lt_of_le_of_lt (Text.width_instructions_le m.program) fits) reader writer
    obtain ⟨rounds, rounds', o, u', hrounds, hrounds', hle, hmirrors, -⟩ :=
      exists_mirrored fits htape reader writer least
    refine ⟨rounds, o, hrounds, ?_⟩
    rw [hmirrors.world_eq]
    exact hintact'.before_later hrun hrounds' hle

/-- What the instructions come to, the program comes to. -/
theorem Meets.retold {fate' : Fate} (h : m.withoutComments.Meets reader writer fate')
    (fits : m.program.width < wordLimit) (htape : m.tape.Valid) :
    ∃ fate, m.Meets reader writer fate ∧ fate.Retold m.program fate' := by
  cases fate' with
  | ended result w =>
      obtain ⟨least, q, hrun, rfl⟩ := h
      obtain ⟨rounds, rounds', o, u, hrounds, hrounds', hle, hmirrors, -⟩ :=
        exists_mirrored fits htape reader writer least
      obtain rfl := Outcome.eq_of_runFor_finished (o := .running _) hrun hrounds' hle
      cases hmirrors with
      | @finished result' _ r _ hfate hretold =>
          exact ⟨.ended result' r.world, ⟨rounds, r, hrounds, rfl⟩, hfate⟩
  | endless =>
      refine ⟨.endless, (meets_endless_iff htape fits).mpr ?_, .endless⟩
      rintro result w ⟨least, r, hrun, -⟩
      obtain ⟨rounds, rounds', o, u, hrounds, hrounds', hle, hmirrors, hcount⟩ :=
        exists_mirrored fits htape reader writer least
      obtain ⟨q, hq⟩ := h rounds'
      obtain rfl := Except.ok.inj (hrounds'.symm.trans hq)
      obtain rfl := Outcome.eq_of_runFor_finished (o := .running _) hrun hrounds (hcount q rfl)
      -- the run of the program has ended, although its mirror goes on
      exact nomatch hmirrors

/-- What the program reports, its instructions report. -/
theorem exists_retold_of_reports (fits : m.program.width < wordLimit) (htape : m.tape.Valid)
    {k : Nat} {event : MachineEvent} (h : (m.start reader writer).Reports k event) :
    ∃ event', (m.withoutComments.start reader writer).Reports k event' ∧
      event.Retold m.program event' := by
  have hintact := Run.intact_start htape fits reader writer
  obtain ⟨least, o, hrun, hevent⟩ := h
  obtain ⟨rounds, rounds', o', u, hrounds, hrounds', hmirrors, hlater⟩ :=
    exists_mirrored_later fits htape hrun
  replace hlater : o'.run.log[k]? = some event := by
    rcases hlater with hle | rfl
    · exact hintact.report_stays hrun hrounds hle hevent
    · exact hevent
  rw [← Array.getElem?_toList] at hlater
  obtain ⟨event', hevent', hretold⟩ := exists_of_forall₂ hmirrors.retold hlater
  rw [Array.getElem?_toList] at hevent'
  exact ⟨event', ⟨rounds', u, hrounds', hevent'⟩, hretold⟩

/-- What the instructions report, the program reports. -/
theorem exists_of_reports_retold (fits : m.program.width < wordLimit) (htape : m.tape.Valid)
    {k : Nat} {event' : MachineEvent}
    (h : (m.withoutComments.start reader writer).Reports k event') :
    ∃ event, (m.start reader writer).Reports k event ∧ event.Retold m.program event' := by
  have hintact' := Run.intact_start (m := m.withoutComments) htape
    (Nat.lt_of_le_of_lt (Text.width_instructions_le m.program) fits) reader writer
  obtain ⟨least, u, hrun, hevent⟩ := h
  obtain ⟨rounds, rounds', o, u', hrounds, hrounds', hle, hmirrors, -⟩ :=
    exists_mirrored fits htape reader writer least
  have hlater := hintact'.report_stays hrun hrounds' hle hevent
  rw [← Array.getElem?_toList] at hlater
  obtain ⟨event, hevent', hretold⟩ := exists_of_forall₂ hmirrors.retold.flip hlater
  rw [Array.getElem?_toList] at hevent'
  exact ⟨event, ⟨rounds, o, hrounds, hevent'⟩, hretold⟩

/-- **Comments never matter**: a program and its instructions alone come to the same from every
    tape, over every input and output, and report the same events one by one.  Each offset that the
    program reports is that of the instruction whose index the instructions alone report.  Whether
    or not the two end, each of them comes to write and to read whatever the other one does. -/
theorem comments_never_matter (fits : m.program.width < wordLimit) (htape : m.tape.Valid)
    (reader : Reader) (writer : Writer) :
    (∃ fate fate', (∀ other, m.Meets reader writer other ↔ other = fate) ∧
      (∀ other, m.withoutComments.Meets reader writer other ↔ other = fate') ∧
      fate.Retold m.program fate') ∧
    (∀ k event, (m.start reader writer).Reports k event →
      ∃ event', (m.withoutComments.start reader writer).Reports k event' ∧
        event.Retold m.program event') ∧
    (∀ k event', (m.withoutComments.start reader writer).Reports k event' →
      ∃ event, (m.start reader writer).Reports k event ∧ event.Retold m.program event') ∧
    m.withoutComments.KeepsUp m reader writer ∧ m.KeepsUp m.withoutComments reader writer := by
  have fits' : m.withoutComments.program.width < wordLimit :=
    Nat.lt_of_le_of_lt (Text.width_instructions_le m.program) fits
  obtain ⟨fate', hmeets', -⟩ := existsUnique_meets (m := m.withoutComments) htape fits' reader writer
  obtain ⟨fate, hmeets, hretold⟩ := hmeets'.retold fits htape
  refine ⟨⟨fate, fate', hmeets.iff_eq, hmeets'.iff_eq, hretold⟩, ?_, ?_,
    keepsUp_comments fits htape reader writer⟩
  · intro k event hreports
    exact exists_retold_of_reports fits htape hreports
  · intro k event' hreports
    exact exists_of_reports_retold fits htape hreports

/-- Comments of one, two and three bytes around the brackets of a loop that is executed twice, and
    in front of a `]` that has no `[`. -/
theorem comments_never_matter_around_brackets :
    Text.width ['é', '[', '→', '-', ']', '!', ']'] < wordLimit ∧ Tape.Valid ⟨#[2], 0⟩ ∧
      Text.instructions ['é', '[', '→', '-', ']', '!', ']'] = ['[', '-', ']', ']'] ∧
      ∃ m : Machine,
        m = ⟨['é', '[', '→', '-', ']', '!', ']'], MachineSetup.standard, ⟨#[2], 0⟩, []⟩ ∧
        m.Meets ⟨[]⟩ .accepting
          (.ended (.error (.unmatchedLoopEnd 9)) ⟨⟨#[0], 0⟩, ⟨[]⟩, .accepting⟩) ∧
        m.withoutComments.Meets ⟨[]⟩ .accepting
          (.ended (.error (.unmatchedLoopEnd 3)) ⟨⟨#[0], 0⟩, ⟨[]⟩, .accepting⟩) ∧
        m.program.InstructionAt 9 3 := by
  have fits : Text.width ['é', '[', '→', '-', ']', '!', ']'] < wordLimit := by decide
  have htape : Tape.Valid ⟨#[2], 0⟩ := ⟨by decide, by decide⟩
  have hmeets : Meets ⟨['é', '[', '→', '-', ']', '!', ']'], MachineSetup.standard, ⟨#[2], 0⟩, []⟩
      ⟨[]⟩ .accepting (.ended (.error (.unmatchedLoopEnd 9)) ⟨⟨#[0], 0⟩, ⟨[]⟩, .accepting⟩) :=
    (meets_iff_endsFrom htape fits).mpr (JumpMachine.endsFrom_iff_iterate.mpr ⟨12, rfl⟩)
  have hmeets' : Meets ⟨['[', '-', ']', ']'], MachineSetup.standard, ⟨#[2], 0⟩, []⟩
      ⟨[]⟩ .accepting (.ended (.error (.unmatchedLoopEnd 3)) ⟨⟨#[0], 0⟩, ⟨[]⟩, .accepting⟩) :=
    (meets_iff_endsFrom htape (by decide)).mpr (JumpMachine.endsFrom_iff_iterate.mpr ⟨8, rfl⟩)
  obtain ⟨⟨fate, fate', hfate, hfate', hretold⟩, -⟩ := comments_never_matter
    (m := ⟨['é', '[', '→', '-', ']', '!', ']'], MachineSetup.standard, ⟨#[2], 0⟩, []⟩) fits htape
    ⟨[]⟩ .accepting
  obtain rfl := (hfate _).mp hmeets
  obtain rfl := (hfate' _).mp hmeets'
  refine ⟨fits, htape, by decide, _, rfl, hmeets, hmeets', ?_⟩
  -- the two errors are the same one retold
  cases hretold with
  | failed h _ =>
      cases h with
      | unmatchedLoopEnd h => exact h

end Machine

end TextCursor
