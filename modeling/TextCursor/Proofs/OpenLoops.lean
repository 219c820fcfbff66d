import TextCursor.Proofs.Rounds

/-! # Open loops and loop errors

    The open loops of a run do not depend on data: between any two rounds they are
    the unclosed `[` of what has been read, whatever the cells hold, however the
    input and the output behave, and whatever runs the machine has been through.

    The route is an invariant, `Run.OnCourse`, on top of `Run.Ready`: no stray `]`
    has been read, and nothing about the end of the program has been reported.
    Every round keeps it or ends the run in one of the three ways of `Run.Ending`.
    What a run says about its loops can then be read off the text alone. -/

namespace TextCursor

namespace Run

variable {r r' : Run} {program front back : Text} {flushes : Nat}

/-! ## Where a run stands -/

/-- The loops that are open between two rounds, the outermost first, are the unclosed brackets of
    the part of the program before the cursor. -/
def LoopsListUnclosed (program : Text) (r : Run) : Prop :=
  ∃ front, program.before r.cursor.offset = .ok front ∧
    front.ListsUnclosed (r.machine.loops.map OpenLoop.start).reverse

/-- A run that was started with so many flushes reports at the end of its program, and only
    there, how many brackets of the program are unclosed, if any are. -/
def ReportsUnclosed (program : Text) (flushes : Nat) (r : Run) : Prop :=
  ∀ count, .endedInside count ∈ r.log ↔ r.writer.flushes = flushes + 1 ∧ count ≠ 0 ∧
    ∃ offsets, program.ListsUnclosed offsets ∧ offsets.length = count

/-- The open loops of a ready run are the unclosed brackets of what it has read. -/
theorem Ready.loopsListUnclosed (h : r.Ready program front back) : r.LoopsListUnclosed program := by
  refine ⟨front, ?_, ?_⟩
  · rw [h.between.offset_eq, h.text_eq, Text.before_append]
  · rw [h.starts]
    exact Text.listsUnclosed_openings front

/-- The end of a run keeps it ready. -/
theorem Ready.ended (h : r.Ready program front back) : r.ended.Ready program front back := by
  obtain ⟨⟨program', setup, tape, loops⟩, cursor, reader, writer, log⟩ := r
  -- the end changes the log and the writer only
  cases loops with
  | nil => exact ⟨h.program_eq, h.text_eq, h.between, h.fits, h.tape, h.starts⟩
  | cons innermost loops => exact ⟨h.program_eq, h.text_eq, h.between, h.fits, h.tape, h.starts⟩

theorem machine_ended (r : Run) : r.ended.machine = r.machine := by
  rw [Run.ended]
  cases r.machine.loops.isEmpty <;> rfl

/-- Whether a run ends or not, its machine is as the last instruction has left it. -/
theorem machine_settle (r : Run) : r.settle.run.machine = r.machine := by
  unfold settle
  split
  · exact r.machine_ended
  · rfl

/-- Settling keeps a run ready, whether it goes on or not. -/
theorem Ready.settle_run (h : r.Ready program front back) :
    r.settle.run.Ready program front back := by
  unfold settle
  split
  · exact h.ended
  · exact h

/-- The end of a program flushes the output once. -/
theorem flushes_ended (r : Run) : r.ended.writer.flushes = r.writer.flushes + 1 :=
  World.flushes_flushed r.world

/-- Nothing has been reported about brackets that are unclosed at the end. -/
def Silent (r : Run) : Prop :=
  ∀ count, MachineEvent.endedInside count ∉ r.log

/-- Any report but that one leaves a run silent. -/
theorem Silent.report (h : r.Silent) {event : MachineEvent}
    (hevent : ∀ count, .endedInside count ≠ event) : (r.report event).Silent := by
  intro count hmem
  rcases Array.mem_push.mp hmem with hold | hnew
  · exact h count hold
  · exact hevent count hnew

/-- A silent run has nothing to report before its flush. -/
theorem Silent.reportsUnclosed (h : r.Silent) (hflushes : r.writer.flushes = flushes) :
    r.ReportsUnclosed program flushes := by
  intro count
  constructor
  · intro hmem
    exact absurd hmem (h count)
  · rintro ⟨hflushed, -⟩
    omega

/-- A ready run that has met no stray `]` and has neither reported nor flushed its end. -/
structure OnCourse (program : Text) (flushes : Nat) (front back : Text) (r : Run) : Prop
    extends r.Ready program front back where
  noStray : ∀ offset, ¬ front.IsStray offset
  silent : r.Silent
  flushes_eq : r.writer.flushes = flushes

/-- How a run ends. -/
inductive Ending (program : Text) (flushes : Nat) : Except MachineError Unit → Run → Prop
  /-- At a `]` that has no `[`. -/
  | stray {front back : Text} {r : Run} (h : r.OnCourse program flushes front (']' :: back))
      (hnil : Text.openings front = []) :
      Ending program flushes (.error (.unmatchedLoopEnd front.width)) (r.strayed front.width)
  /-- At an instruction that failed. -/
  | failed {front back : Text} {r : Run} {failure : IoFailure}
      (h : r.OnCourse program flushes front back) :
      Ending program flushes (.error (.io failure)) r
  /-- At the end of the program. -/
  | reached {r : Run} (h : r.OnCourse program flushes program []) :
      Ending program flushes r.world.flushed.1 r.ended

/-- What a run on its course comes to: it stays there, or it ends. -/
def KeepsCourse (program : Text) (flushes : Nat) : Outcome → Prop :=
  Outcome.Satisfies (fun r => ∃ front back, r.OnCourse program flushes front back)
    (Ending program flushes)

/-- A run starts on its course. -/
theorem onCourse_start {m : Machine} (fits : m.program.width < wordLimit) (htape : m.tape.Valid)
    (reader : Reader) (writer : Writer) :
    (m.start reader writer).OnCourse m.program writer.flushes [] m.program where
  toReady := ready_start fits htape reader writer
  noStray := by
    rintro offset ⟨front, back, heq, -⟩
    exact absurd heq.symm (List.append_ne_nil_of_right_ne_nil _ (List.cons_ne_nil _ _))
  silent := fun count hmem => absurd hmem (Array.not_mem_empty _)
  flushes_eq := rfl

namespace OnCourse

/-- Reading on, a run stays on its course unless it reads a `]` while no bracket is open. -/
theorem snoc {d : Char} (h : r.OnCourse program flushes front (d :: back))
    (hready : r'.Ready program (front ++ [d]) back) (hd : d = ']' → Text.openings front ≠ [])
    (hsilent : r'.Silent)
    (hflushes : r'.writer.flushes = r.writer.flushes) :
    r'.OnCourse program flushes (front ++ [d]) back where
  toReady := hready
  noStray := by
    intro offset hstray
    rcases Text.isStray_snoc_iff.mp hstray with hold | ⟨rfl, -, hnil⟩
    · exact h.noStray offset hold
    · exact hd rfl hnil
  silent := hsilent
  flushes_eq := hflushes.trans h.flushes_eq

/-- At the end of a round a run stays on its course, or has come to the end of its program. -/
theorem settle (h : r.OnCourse program flushes front back) :
    KeepsCourse program flushes r.settle := by
  cases back with
  | nil =>
      rw [settle_end h.between]
      have hall : program = front := by rw [h.text_eq, List.append_nil]
      exact .reached (hall ▸ h)
  | cons d back =>
      rw [settle_running h.between]
      exact ⟨front, d :: back, h⟩

/-- A bracket is open while a loop is. -/
theorem openings_ne_nil (h : r.OnCourse program flushes front back) {innermost : OpenLoop}
    {loops : List OpenLoop} (hloops : r.machine.loops = innermost :: loops) :
    Text.openings front ≠ [] := by
  intro hnil
  have hlength := h.length_loops
  rw [hloops, hnil] at hlength
  exact nomatch hlength

/-- A round keeps a run on its course or ends it. -/
theorem round_ok (h : r.OnCourse program flushes front back) :
    ∃ o, r.round = .ok o ∧ KeepsCourse program flushes o := by
  cases back with
  | nil => exact ⟨_, h.round_end, h.settle⟩
  | cons d back =>
      obtain ⟨o, hround, hcase⟩ := Run.round_ok h.toReady
      refine ⟨o, hround, ?_⟩
      cases hcase with
      | opened hd hready =>
          have hne : d ≠ ']' := by
            rw [hd]
            decide
          have hsilent : (r.opened front.width).Silent :=
            Silent.report (r := r.passed '[') h.silent fun _ => nofun
          exact (h.snoc hready (fun hclose => absurd hclose hne) hsilent rfl).settle
      | stray hd hnil hready =>
          subst hd
          exact .stray h hnil
      | closed hd hloops hskip hready =>
          exact (h.snoc hready (fun _ => h.openings_ne_nil hloops) h.silent rfl).settle
      | @rewound innermost loops before body hd hloops hskip hfront hbody hready =>
          have hsilent : (r.rewound before.width loops).Silent :=
            Silent.report (r := (r.passed ']').withLoops loops) h.silent fun _ => nofun
          refine ⟨before, _, hready, ?_, hsilent, h.flushes_eq⟩
          -- what was read before the `[` is a part of what was read before the `]`
          intro offset hstray
          exact h.noStray offset (hfront ▸ hstray.append ('[' :: body))
      | skipped hopen hclose hskip hready =>
          exact (h.snoc hready (fun hd => absurd hd hclose) h.silent rfl).settle
      | acted hopen hclose hskip hact hready =>
          have hflushes := r.world.flushes_act r.machine.setup.inputEnd d
          rw [hact] at hflushes
          exact (h.snoc hready (fun hd => absurd hd hclose) h.silent hflushes).settle
      | failed hopen hclose hskip hact hready =>
          have hflushes := r.world.flushes_act r.machine.setup.inputEnd d
          rw [hact] at hflushes
          exact .failed (h.snoc hready (fun hd => absurd hd hclose) h.silent hflushes)

/-- A run stays on its course until it ends. -/
theorem runFor_ok (h : r.OnCourse program flushes front back) (rounds : Nat) :
    ∃ o, r.runFor rounds = .ok o ∧ KeepsCourse program flushes o := by
  refine Run.runFor_ok ?_ rounds r ⟨front, back, h⟩
  rintro r' ⟨front', back', h'⟩
  exact h'.round_ok

end OnCourse

/-! ## How a run has ended -/

namespace Ending

variable {result : Except MachineError Unit}

/-- A run that has ended is still ready. -/
theorem ready (h : Ending program flushes result r) : ∃ front back, r.Ready program front back := by
  cases h with
  | stray h hnil => exact ⟨_, _, h.toReady.strayed hnil⟩
  | failed h => exact ⟨_, _, h.toReady⟩
  | reached h => exact ⟨_, _, h.toReady.ended⟩

/-- At the end the open loops are counted, and they are as many as the unclosed brackets. -/
theorem reportsUnclosed (h : Ending program flushes result r) :
    r.ReportsUnclosed program flushes := by
  cases h with
  | @stray front back r h hnil =>
      have hsilent : (r.strayed front.width).Silent :=
        Silent.report (r := r.passed ']') h.silent fun _ => nofun
      exact hsilent.reportsUnclosed h.flushes_eq
  | failed h => exact h.silent.reportsUnclosed h.flushes_eq
  | @reached r h =>
      have hflushed : r.ended.writer.flushes = flushes + 1 := by
        rw [flushes_ended, h.flushes_eq]
      -- there is one list of the unclosed brackets, and the open loops are as long
      have hlength : ∀ count, (∃ offsets, program.ListsUnclosed offsets ∧ offsets.length = count) ↔
          r.machine.loops.length = count := by
        have hlists := Text.listsUnclosed_openings program
        have hcount : ((Text.openings program).map Text.width).reverse.length
            = r.machine.loops.length := by
          rw [List.length_reverse, List.length_map, h.length_loops]
        intro count
        constructor
        · rintro ⟨offsets, hoffsets, rfl⟩
          rw [← hcount, hoffsets.unique hlists]
        · rintro rfl
          exact ⟨_, hlists, hcount⟩
      intro count
      rw [hlength, hflushed, Run.ended]
      cases hloops : r.machine.loops with
      | nil =>
          constructor
          · intro hmem
            exact absurd hmem (h.silent count)
          · rintro ⟨-, hne, hzero⟩
            exact absurd hzero.symm hne
      | cons innermost loops =>
          constructor
          · intro hmem
            rcases Array.mem_push.mp hmem with hold | hnew
            · exact absurd hold (h.silent count)
            · obtain rfl := MachineEvent.endedInside.inj hnew
              exact ⟨rfl, Nat.succ_ne_zero _, rfl⟩
          · rintro ⟨-, -, rfl⟩
            exact Array.mem_push.mpr (Or.inr rfl)

/-- Only the first stray `]` of the program is ever complained about. -/
theorem isFirstStray (h : Ending program flushes result r) {offset : Nat}
    (hresult : result = .error (.unmatchedLoopEnd offset)) : program.IsFirstStray offset := by
  cases h with
  | stray h hnil =>
      obtain rfl := MachineError.unmatchedLoopEnd.inj (Except.error.inj hresult)
      rw [h.text_eq]
      exact Text.isFirstStray_append h.noStray hnil
  | failed h => exact nomatch hresult
  | @reached r h =>
      have hflush : r.world.flushed.1 = r.writer.flush.1.mapError .io := rfl
      rw [hflush] at hresult
      cases hfails : r.writer.flush.1 with
      | ok u =>
          rw [hfails] at hresult
          exact nomatch hresult
      | error failure =>
          rw [hfails] at hresult
          exact nomatch Except.error.inj hresult

/-- A run that succeeds has come to the flush at the end of its program. -/
theorem flushes_succ (h : Ending program flushes result r) (hresult : result = .ok ()) :
    r.writer.flushes = flushes + 1 := by
  cases h with
  | stray h hnil => exact nomatch hresult
  | failed h => exact nomatch hresult
  | reached h => rw [flushes_ended, h.flushes_eq]

/-- A run that succeeds has read the whole program and met no stray `]`. -/
theorem noStray (h : Ending program flushes result r) (hresult : result = .ok ()) :
    ∀ offset, ¬ program.IsStray offset := by
  cases h with
  | stray h hnil => exact nomatch hresult
  | failed h => exact nomatch hresult
  | reached h => exact h.noStray

/-- Where neither input nor output fails, the text alone decides how a run ends. -/
theorem result_iff (h : Ending program flushes result r)
    (hsmooth : ∀ failure, result ≠ .error (.io failure)) :
    (∀ offset, result = .error (.unmatchedLoopEnd offset) ↔ program.IsFirstStray offset) ∧
      (result = .ok () ↔ ∀ offset, ¬ program.IsFirstStray offset) := by
  cases result with
  | ok u =>
      have hnone : ∀ offset, ¬ program.IsFirstStray offset :=
        fun offset hfirst => h.noStray rfl offset hfirst.1
      exact ⟨fun offset => ⟨nofun, fun hfirst => absurd hfirst (hnone offset)⟩,
        fun _ => hnone, fun _ => rfl⟩
  | error error =>
      cases error with
      | io failure => exact absurd rfl (hsmooth failure)
      | unmatchedLoopEnd offset =>
          have hfirst : program.IsFirstStray offset := h.isFirstStray rfl
          refine ⟨fun other => ⟨fun heq => h.isFirstStray heq, fun hother => ?_⟩, nofun, ?_⟩
          · rw [hfirst.unique hother]
          · intro hnone
            exact absurd hfirst (hnone offset)

end Ending

end Run

/-! ## Runs without failures -/

namespace World

variable {w : World}

/-- Input that consists of bytes, and output that is always accepted. -/
structure Smooth (w : World) : Prop where
  delivers : ∃ bytes, w.reader = .ofBytes bytes
  accepts : w.writer.script = []
  flushes : w.writer.flushFailure = none

/-- Such output is flushed without a failure. -/
theorem Smooth.flushed (h : w.Smooth) : w.flushed.1 = .ok () := by
  rw [World.flushed, Writer.flush, h.flushes]
  rfl

/-- Where nothing fails, instructions do not fail. -/
theorem Smooth.act (h : w.Smooth) (inputEnd : EndOfInput) (instruction : Char) :
    (w.act inputEnd instruction).1 = none ∧ (w.act inputEnd instruction).2.Smooth := by
  obtain ⟨tape, reader, ⟨answers, flushFailure, accepted, flushes⟩⟩ := w
  obtain ⟨⟨bytes, rfl⟩, rfl, rfl⟩ := h
  unfold World.act
  split
  · exact ⟨rfl, ⟨bytes, rfl⟩, rfl, rfl⟩
  · exact ⟨rfl, ⟨bytes, rfl⟩, rfl, rfl⟩
  · exact ⟨rfl, ⟨bytes, rfl⟩, rfl, rfl⟩
  · exact ⟨rfl, ⟨bytes, rfl⟩, rfl, rfl⟩
  · exact ⟨rfl, ⟨bytes, rfl⟩, rfl, rfl⟩
  · cases bytes with
    | nil => exact ⟨rfl, ⟨[], rfl⟩, rfl, rfl⟩
    | cons b bytes => exact ⟨rfl, ⟨bytes, rfl⟩, rfl, rfl⟩
  · exact ⟨rfl, ⟨bytes, rfl⟩, rfl, rfl⟩

end World

namespace Run

variable {r : Run} {program front back : Text}

/-- What a ready run in a smooth world comes to: it stays one, or it ends without a failure of
    its input or output. -/
def KeepsSmooth (program : Text) : Outcome → Prop :=
  Outcome.Satisfies (fun r => ∃ front back, r.Ready program front back ∧ r.world.Smooth)
    (fun result _ => ∀ failure, result ≠ .error (.io failure))

/-- Where nothing fails, the end of a round does not either. -/
theorem Ready.settle_smooth (h : r.Ready program front back) (hsmooth : r.world.Smooth) :
    KeepsSmooth program r.settle := by
  cases back with
  | nil =>
      rw [settle_end h.between, hsmooth.flushed]
      exact fun _ => nofun
  | cons d back =>
      rw [settle_running h.between]
      exact ⟨front, d :: back, h, hsmooth⟩

/-- Where nothing fails, no round fails for it. -/
theorem Ready.round_smooth (h : r.Ready program front back) (hsmooth : r.world.Smooth) :
    ∃ o, r.round = .ok o ∧ KeepsSmooth program o := by
  cases back with
  | nil => exact ⟨_, h.round_end, h.settle_smooth hsmooth⟩
  | cons d back =>
      obtain ⟨o, hround, hcase⟩ := Run.round_ok h
      refine ⟨o, hround, ?_⟩
      cases hcase with
      | opened hd hready => exact hready.settle_smooth hsmooth
      | stray hd hnil hready => exact fun _ => nofun
      | closed hd hloops hskip hready => exact hready.settle_smooth hsmooth
      | rewound hd hloops hskip hfront hbody hready => exact ⟨_, _, hready, hsmooth⟩
      | skipped hopen hclose hskip hready => exact hready.settle_smooth hsmooth
      | acted hopen hclose hskip hact hready =>
          have hsmooth' := (hsmooth.act r.machine.setup.inputEnd d).2
          rw [hact] at hsmooth'
          exact hready.settle_smooth hsmooth'
      | failed hopen hclose hskip hact hready =>
          have hnone := (hsmooth.act r.machine.setup.inputEnd d).1
          rw [hact] at hnone
          exact nomatch hnone

/-- However many rounds a run makes there, it meets no failure. -/
theorem Ready.runFor_smooth (h : r.Ready program front back) (hsmooth : r.world.Smooth)
    (rounds : Nat) : ∃ o, r.runFor rounds = .ok o ∧ KeepsSmooth program o := by
  refine Run.runFor_ok ?_ rounds r ⟨front, back, h, hsmooth⟩
  rintro r' ⟨front', back', h', hsmooth'⟩
  exact h'.round_smooth hsmooth'

end Run

/-! ## The open loops of every run -/

namespace Machine

/-- The machines that exist: new ones, and those whose last run has ended, well or not. -/
inductive Reached (program : Text) (setup : MachineSetup) : Machine → Prop
  | fresh : Reached program setup (ofProgram program setup)
  | again {m : Machine} {reader : Reader} {writer : Writer} {rounds : Nat}
      {result : Except MachineError Unit} {r : Run} (h : Reached program setup m)
      (hrun : (m.start reader writer).runFor rounds = .ok (.finished result r)) :
      Reached program setup r.machine

variable {program : Text} {setup : MachineSetup} {m : Machine}

/-- No history of runs changes the program or moves the pointer off the tape. -/
theorem Reached.valid (h : Reached program setup m) (fits : program.width < wordLimit)
    (hcells : setup.cells < wordLimit) : m.program = program ∧ m.tape.Valid := by
  induction h with
  | fresh => exact ⟨rfl, Tape.valid_blank hcells⟩
  | @again m reader writer rounds result r _ hrun ih =>
      obtain ⟨rfl, htape⟩ := ih
      obtain ⟨o, hok, hkept⟩ := (Run.onCourse_start fits htape reader writer).runFor_ok rounds
      rw [hrun] at hok
      obtain rfl := Except.ok.inj hok
      obtain ⟨front, back, hready⟩ := Run.Ending.ready hkept
      exact ⟨hready.program_eq, hready.tape⟩

/-- A run over given bytes that keeps what it prints ends without a failure of either. -/
theorem ends_of_collect (fits : program.width < wordLimit) {input : List UInt8} {rounds : Nat}
    {result : Except MachineError Unit} {r : Run}
    (hrun : (collect program input).runFor rounds = .ok (.finished result r)) :
    Run.Ending program 0 result r ∧ ∀ failure, result ≠ .error (.io failure) := by
  have htape : (ofProgram program MachineSetup.standard).tape.Valid := Tape.valid_blank (by decide)
  have hcourse : (collect program input).OnCourse program 0 [] program :=
    Run.onCourse_start fits htape (Reader.ofBytes input) Writer.accepting
  obtain ⟨o, hok, hkept⟩ := hcourse.runFor_ok rounds
  obtain ⟨o', hok', hsmooth⟩ := hcourse.toReady.runFor_smooth ⟨⟨input, rfl⟩, rfl, rfl⟩ rounds
  rw [hrun] at hok hok'
  obtain rfl := Except.ok.inj hok
  obtain rfl := Except.ok.inj hok'
  exact ⟨hkept, hsmooth⟩

/-- **LOOPS ARE A MATTER OF TEXT**: whatever a machine has been through and whatever its input and
    output do, between two rounds its open loops list the unclosed brackets of what it has read; at
    the end of its program, and only there, it reports how many are unclosed; it complains about a
    `]` only if that is the first stray one, and it succeeds only at the end and if there is none.
    Where input and output never fail, the complaint comes exactly if there is a stray `]`. -/
theorem loops_list_unclosed (fits : program.width < wordLimit) (hcells : setup.cells < wordLimit) :
    (∀ m, Reached program setup m → ∀ reader writer rounds,
      ∃ o, (m.start reader writer).runFor rounds = .ok o ∧
        o.run.LoopsListUnclosed program ∧
        o.run.ReportsUnclosed program writer.flushes ∧
        ∀ result r, o = .finished result r →
          (∀ offset, result = .error (.unmatchedLoopEnd offset) → program.IsFirstStray offset) ∧
          (result = .ok () →
            r.writer.flushes = writer.flushes + 1 ∧ ∀ offset, ¬ program.IsStray offset)) ∧
    ∀ input rounds result r, (collect program input).runFor rounds = .ok (.finished result r) →
      (∀ offset, result = .error (.unmatchedLoopEnd offset) ↔ program.IsFirstStray offset) ∧
      (result = .ok () ↔ ∀ offset, ¬ program.IsFirstStray offset) := by
  constructor
  · intro m hm reader writer rounds
    obtain ⟨rfl, htape⟩ := hm.valid fits hcells
    obtain ⟨o, hok, hkept⟩ := (Run.onCourse_start fits htape reader writer).runFor_ok rounds
    refine ⟨o, hok, ?_⟩
    cases o with
    | running r =>
        obtain ⟨front, back, h⟩ := hkept
        exact ⟨h.toReady.loopsListUnclosed, h.silent.reportsUnclosed h.flushes_eq, fun _ _ => nofun⟩
    | finished result r =>
        have hending : Run.Ending m.program writer.flushes result r := hkept
        obtain ⟨front, back, h⟩ := hending.ready
        refine ⟨h.loopsListUnclosed, hending.reportsUnclosed, ?_⟩
        rintro result' r' heq
        obtain ⟨rfl, rfl⟩ := Outcome.finished.inj heq
        exact ⟨fun _ => hending.isFirstStray,
          fun hresult => ⟨hending.flushes_succ hresult, hending.noStray hresult⟩⟩
  · intro input rounds result r hrun
    obtain ⟨hending, hsmooth⟩ := ends_of_collect fits hrun
    exact hending.result_iff hsmooth

/-- A new machine three rounds on, in a text with an unclosed `[` and a character of two bytes; and
    a `]` behind such a character, at whose offset every run ends that ends at all. -/
theorem loops_list_unclosed_behind_two_bytes :
    (Text.width ['[', 'é', '[', ']'] < wordLimit ∧ MachineSetup.standard.cells < wordLimit ∧
      ∃ o, ((ofProgram ['[', 'é', '[', ']'] MachineSetup.standard).start (Reader.ofBytes [])
          Writer.accepting).runFor 3 = .ok o ∧
        o.run.LoopsListUnclosed ['[', 'é', '[', ']'] ∧
        o.run.ReportsUnclosed ['[', 'é', '[', ']'] 0) ∧
    ∀ input rounds result r,
      (collect ['é', ']'] input).runFor rounds = .ok (.finished result r) →
      result = .error (.unmatchedLoopEnd 2) := by
  have hcells : MachineSetup.standard.cells < wordLimit := by decide
  constructor
  · have fits : Text.width ['[', 'é', '[', ']'] < wordLimit := by decide
    obtain ⟨o, hok, hlists, hreports, -⟩ :=
      (loops_list_unclosed fits hcells).1 _ .fresh (Reader.ofBytes []) Writer.accepting 3
    exact ⟨fits, hcells, o, hok, hlists, hreports⟩
  · have fits : Text.width ['é', ']'] < wordLimit := by decide
    have hfirst : Text.IsFirstStray (['é'] ++ ']' :: []) 2 := by
      refine Text.isFirstStray_append ?_ rfl
      rintro offset ⟨_ | ⟨_, _ | _⟩, back, heq, -⟩ <;> simp at heq
    intro input rounds result r hrun
    exact (((loops_list_unclosed fits hcells).2 input rounds result r hrun).1 2).mpr hfirst

end Machine

end TextCursor
