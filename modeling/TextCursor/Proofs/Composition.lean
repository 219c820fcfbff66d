import TextCursor.Proofs.OngoingParts

/-! # One program after another

    Programs can be taken apart where all brackets of the first part match: a run
    over the whole text comes to what a run over the first part and then, if that
    succeeded, a run over the second part come to, on the tape, the input and the
    output as they were left.  Repeating a text is the same as running it
    repeatedly, and a loop is its body followed by the loop as long as its cell is
    not zero.

    Each of these laws has two sides.  One is what runs come to, `Meets`, and the
    other what they write and read on the way, `Covers`, which is all that there is
    to say of a run that goes on for ever.

    The laws of the jump machine about parts of programs say most of this.  What
    they leave to do concerns the seam: a run over the first part flushes there,
    while a run over both does not.  A world that is `Unflushed` can bear that
    flush, and what comes behind it does not notice. -/

namespace TextCursor

namespace Machine

variable {m : Machine} {reader : Reader} {writer : Writer} {answers : List Acceptance}
  {flushFailure : Option IoFailure} {fate : Fate} {result outcome : Except MachineError Unit}
  {v w u : World} {p q b x : Text}

/-! ## The end of a program -/

/-- A run over the program of a machine, up to the end and not flushed there, has an outcome and
    leaves a world. -/
def Leaves (m : Machine) (reader : Reader) (writer : Writer) (outcome : Except MachineError Unit)
    (u : World) : Prop :=
  (JumpMachine.ofProgram m.program m.setup.inputEnd).LeavesFrom ⟨0, ⟨m.tape, reader, writer⟩⟩
    outcome u

/-- What a run ends with that has left its program with an outcome. -/
def concluded (u : World) : Except MachineError Unit → Except MachineError Unit × World
  | .ok () => u.flushed
  | .error error => (.error error, u)

/-- A program that is left leaves its tape in order. -/
theorem Leaves.tape_valid (h : m.Leaves reader writer outcome u) (htape : m.tape.Valid) :
    u.tape.Valid :=
  JumpMachine.LeavesFrom.keeps (P := fun u => u.tape.Valid)
    (fun c _ hu => World.valid_act hu _ c) h htape

/-- A program with balanced brackets succeeds, or its reader or its output fails. -/
theorem Leaves.result_cases (h : m.Leaves reader writer outcome u) (hp : m.program.Balanced) :
    outcome = .ok () ∨ ∃ failure, outcome = .error (.io failure) :=
  JumpMachine.LeavesFrom.result_cases h hp (Nat.zero_le _)

/-- A run over a balanced program ends where it leaves the program, and flushes at the end. -/
theorem meets_iff_leaves (hp : m.program.Balanced) (htape : m.tape.Valid)
    (fits : m.program.width < wordLimit) :
    m.Meets reader writer (.ended result w) ↔
      ∃ outcome u, m.Leaves reader writer outcome u ∧ (result, w) = concluded u outcome := by
  rw [meets_iff_endsFrom htape fits, JumpMachine.endsFrom_iff_leavesFrom hp]
  refine exists_congr fun outcome => exists_congr fun u => and_congr_right fun _ => ?_
  rcases outcome with error | ⟨⟩
  · exact Prod.mk_inj.symm
  · show JumpMachine.EndsFrom _ _ _ _ ↔ _
    rw [concluded, Prod.ext_iff]
    exact JumpMachine.endsBy_iff_of_finished (JumpMachine.step_of_length_le (Nat.le_refl _) u)

/-! ## The seam -/

/-- Two programs fit where the text of both does. -/
theorem fits_of_append (fits : Text.width (p ++ q) < wordLimit) :
    p.width < wordLimit ∧ q.width < wordLimit := by
  rw [Text.width_append] at fits
  omega

/-- A world whose output will be flushed for the first time, and with success. -/
def Unflushed (w : World) : Prop :=
  w.writer.flushFailure = none ∧ w.writer.flushes = 0

/-- No instruction flushes or changes how the flush will turn out. -/
theorem unflushed_act (inputEnd : EndOfInput) (c : Char) (w : World) (h : Unflushed w) :
    Unflushed (w.act inputEnd c).2 := by
  obtain ⟨hfailure, hflushes⟩ := h
  exact ⟨by rw [World.flushFailure_act, hfailure], by rw [World.flushes_act, hflushes]⟩

/-- When a run leaves its program it has not flushed yet. -/
theorem Leaves.unflushed (h : m.Leaves reader (.ofScript answers none) outcome u) : Unflushed u :=
  JumpMachine.LeavesFrom.keeps (unflushed_act _) h ⟨rfl, rfl⟩

/-- Such a world is flushed with success. -/
theorem Unflushed.flushed_eq (h : Unflushed w) : w.flushed = (.ok (), w.flushed.2) := by
  have hflush : w.flushed.1 = .ok () := by
    rw [World.flushed, Writer.flush, h.1]
    rfl
  rw [← hflush]

/-- The flush at the seam leaves the answers that the second run will get. -/
theorem flushed_script (u : World) : u.flushed.2.writer.script = u.writer.script :=
  u.writer.script_flush

/-- And it leaves what was accepted. -/
theorem flushed_accepted (u : World) : u.flushed.2.writer.accepted = u.writer.accepted :=
  u.writer.accepted_flush

/-- What is left to a second run of a world, with what the first has written put before it. -/
theorem Unflushed.flushing_eq (h : Unflushed w) (flushFailure : Option IoFailure) :
    w.onWriter (.flushing flushFailure) =
      World.onWriter (.continuing w.writer.accepted)
        ⟨w.tape, w.reader, .ofScript w.writer.script flushFailure⟩ := by
  obtain ⟨tape, reader, ⟨script, flushFailure', accepted, flushes⟩⟩ := w
  obtain ⟨rfl, rfl⟩ := h
  simp [World.onWriter, Writer.flushing, Writer.continuing, Writer.ofScript]

/-- Up to its end a program does not notice what its flush will meet. -/
theorem leaves_flushing_iff :
    m.Leaves reader (.ofScript answers flushFailure) outcome w ↔
      ∃ u, m.Leaves reader (.ofScript answers none) outcome u ∧
        w = u.onWriter (.flushing flushFailure) :=
  JumpMachine.leavesFrom_onWriter_iff (s := ⟨0, ⟨m.tape, reader, .ofScript answers none⟩⟩)
    (Writer.unnoticed_flushing flushFailure)

/-- A run over a balanced program has failed if an instruction has failed. -/
theorem meets_error_iff (hp : m.program.Balanced) (htape : m.tape.Valid)
    (fits : m.program.width < wordLimit) {error : MachineError} :
    m.Meets reader (.ofScript answers none) (.ended (.error error) w) ↔
      m.Leaves reader (.ofScript answers none) (.error error) w := by
  rw [meets_iff_leaves hp htape fits]
  constructor
  · rintro ⟨error' | ⟨⟩, u, hleaves, heq⟩
    · obtain ⟨herror, rfl⟩ := Prod.mk.inj heq
      rwa [herror]
    · -- at the end of the program the flush succeeds
      rw [concluded, hleaves.unflushed.flushed_eq] at heq
      exact nomatch (Prod.mk.inj heq).1
  · intro hleaves
    exact ⟨.error error, w, hleaves, rfl⟩

/-- A run over a balanced program has succeeded if it got to its end, where it has flushed. -/
theorem meets_ok_iff (hp : m.program.Balanced) (htape : m.tape.Valid)
    (fits : m.program.width < wordLimit) :
    m.Meets reader (.ofScript answers none) (.ended (.ok ()) w) ↔
      ∃ u, m.Leaves reader (.ofScript answers none) (.ok ()) u ∧ w = u.flushed.2 := by
  rw [meets_iff_leaves hp htape fits]
  constructor
  · rintro ⟨error | ⟨⟩, u, hleaves, heq⟩
    · exact nomatch (Prod.mk.inj heq).1
    · rw [concluded, hleaves.unflushed.flushed_eq] at heq
      exact ⟨u, hleaves, (Prod.mk.inj heq).2⟩
  · rintro ⟨u, hleaves, rfl⟩
    exact ⟨.ok (), u, hleaves, hleaves.unflushed.flushed_eq.symm⟩

/-- Two programs run in turn on one machine: first its own, with a flush that succeeds, and then,
    if that succeeded, another one on the tape, the input and the output as they were left.  The
    bytes of the second come behind those of the first, and so do the offsets that it reports. -/
inductive MeetsInTurn (m : Machine) (q : Text) (reader : Reader) (answers : List Acceptance)
    (flushFailure : Option IoFailure) : Fate → Prop
  /-- The first goes on for ever. -/
  | endless (h : m.Meets reader (.ofScript answers none) .endless) :
      MeetsInTurn m q reader answers flushFailure .endless
  /-- The first fails, and the second is not run. -/
  | failed {error : MachineError} {w : World}
      (h : m.Meets reader (.ofScript answers none) (.ended (.error error) w)) :
      MeetsInTurn m q reader answers flushFailure
        (.ended (.error error) (w.onWriter (.flushing flushFailure)))
  /-- The second is run on what the first has left. -/
  | next {w : World} (fate : Fate) (h : m.Meets reader (.ofScript answers none) (.ended (.ok ()) w))
      (h' : { m with program := q, tape := w.tape }.Meets w.reader
        (.ofScript w.writer.script flushFailure) fate) :
      MeetsInTurn m q reader answers flushFailure
        ((fate.continuing w.writer.accepted).behind m.program)

/-- A second program on what the first has left ends as it would behind the first one's end. -/
theorem Unflushed.endsFrom_iff (hu : Unflushed u) (hvalid : u.tape.Valid)
    (fits : q.width < wordLimit) :
    (JumpMachine.ofProgram q m.setup.inputEnd).EndsFrom ⟨0, u.onWriter (.flushing flushFailure)⟩
        result w ↔
      ∃ w', { m with program := q, tape := u.tape }.Meets u.reader
          (.ofScript u.writer.script flushFailure) (.ended result w') ∧
        w = w'.onWriter (.continuing u.writer.accepted) := by
  have hends : ∀ w', { m with program := q, tape := u.tape }.Meets u.reader
      (.ofScript u.writer.script flushFailure) (.ended result w') ↔ _ :=
    fun w' => meets_iff_endsFrom hvalid fits
  simp only [hends, hu.flushing_eq]
  exact JumpMachine.endsFrom_onWriter_iff (s := ⟨0, _⟩) (Writer.unnoticed_continuing _)
    (Writer.flush_continuing _)

/-- What a run over both programs ends with, runs over the two in turn end with. -/
theorem meets_ended_append_iff (hp : m.program.Balanced) (htape : m.tape.Valid)
    (fits : (m.program ++ q).width < wordLimit) :
    { m with program := m.program ++ q }.Meets reader (.ofScript answers flushFailure)
        (.ended result w) ↔
      m.MeetsInTurn q reader answers flushFailure (.ended result w) := by
  have hfits := fits_of_append fits
  rw [meets_iff_endsFrom (m := { m with program := m.program ++ q }) htape fits,
    JumpMachine.endsFrom_append_iff hp]
  constructor
  · rintro ⟨result', ⟨outcome, u', hflushed, hon⟩, rfl⟩
    obtain ⟨u, hleaves, rfl⟩ := leaves_flushing_iff.mp hflushed
    rcases hleaves.result_cases hp with rfl | ⟨failure, rfl⟩
    · have hfirst := (meets_ok_iff hp htape hfits.1).mpr ⟨u, hleaves, rfl⟩
      obtain ⟨w', hsecond, rfl⟩ :=
        (hleaves.unflushed.endsFrom_iff (hleaves.tape_valid htape) hfits.2).mp hon
      rw [← flushed_script] at hsecond
      rw [← flushed_accepted]
      exact .next (.ended result' w') hfirst hsecond
    · obtain ⟨rfl, rfl⟩ := hon
      have hfirst : m.Meets reader (.ofScript answers none) (.ended (.error (.io failure)) u) :=
        (meets_error_iff hp htape hfits.1).mpr hleaves
      exact .failed hfirst
  · intro h
    generalize hfate : Fate.ended result w = fate at h
    cases h with
    | endless h => exact nomatch hfate
    | failed hfirst =>
        obtain ⟨rfl, rfl⟩ := Fate.ended.inj hfate
        have hleaves := (meets_error_iff hp htape hfits.1).mp hfirst
        rcases hleaves.result_cases hp with hok | ⟨failure, hio⟩
        · exact nomatch hok
        · obtain rfl := Except.error.inj hio
          exact ⟨_, ⟨_, _, leaves_flushing_iff.mpr ⟨_, hleaves, rfl⟩, rfl, rfl⟩, rfl⟩
    | next fate hfirst hsecond =>
        obtain ⟨u, hleaves, rfl⟩ := (meets_ok_iff hp htape hfits.1).mp hfirst
        cases fate with
        | endless => exact nomatch hfate
        | ended result' w₂ =>
            obtain ⟨rfl, rfl⟩ := Fate.ended.inj hfate
            rw [flushed_script] at hsecond
            rw [flushed_accepted]
            have hon := (hleaves.unflushed.endsFrom_iff (hleaves.tape_valid htape) hfits.2).mpr
              ⟨w₂, hsecond, rfl⟩
            exact ⟨result', ⟨.ok (), _, leaves_flushing_iff.mpr ⟨u, hleaves, rfl⟩, hon⟩, rfl⟩

/-- Two programs in turn come to one fate. -/
theorem MeetsInTurn.unique {fate' : Fate} (h : m.MeetsInTurn q reader answers flushFailure fate)
    (h' : m.MeetsInTurn q reader answers flushFailure fate') : fate = fate' := by
  cases h with
  | endless h =>
      cases h' with
      | endless h' => rfl
      | failed h' => exact nomatch h.unique h'
      | next _ h' _ => exact nomatch h.unique h'
  | failed h =>
      cases h' with
      | endless h' => exact nomatch h.unique h'
      | failed h' =>
          obtain ⟨heq, rfl⟩ := Fate.ended.inj (h.unique h')
          rw [heq]
      | next _ h' _ => exact nomatch h.unique h'
  | next fate h hsecond =>
      cases h' with
      | endless h' => exact nomatch h.unique h'
      | failed h' => exact nomatch h.unique h'
      | next fate' h' hsecond' =>
          obtain ⟨-, rfl⟩ := Fate.ended.inj (h.unique h')
          rw [hsecond.unique hsecond']

/-- What a run over both programs comes to, runs over the two in turn come to. -/
theorem meets_append_iff (hp : m.program.Balanced) (htape : m.tape.Valid)
    (fits : (m.program ++ q).width < wordLimit) :
    { m with program := m.program ++ q }.Meets reader (.ofScript answers flushFailure) fate ↔
      m.MeetsInTurn q reader answers flushFailure fate := by
  have hends : ∀ {result w}, { m with program := m.program ++ q }.Meets reader
      (.ofScript answers flushFailure) (.ended result w) ↔ _ :=
    meets_ended_append_iff hp htape fits
  have hfits := fits_of_append fits
  cases fate with
  | ended result w => exact hends
  | endless =>
      rw [meets_endless_iff (m := { m with program := m.program ++ q }) htape fits]
      constructor
      · intro hnone
        by_cases hfirst : ∃ result w, m.Meets reader (.ofScript answers none) (.ended result w)
        · obtain ⟨error | ⟨⟩, w, hfirst⟩ := hfirst
          · exact absurd (hends.mpr (.failed hfirst)) (hnone _ _)
          · have hvalid := hfirst.tape_valid htape hfits.1
            refine .next .endless hfirst ((meets_endless_iff hvalid hfits.2).mpr ?_)
            intro result' w' hsecond
            exact hnone _ _ (hends.mpr (.next (.ended result' w') hfirst hsecond))
        · refine .endless ((meets_endless_iff htape hfits.1).mpr ?_)
          exact fun result w h => hfirst ⟨result, w, h⟩
      · intro h result w hended
        exact nomatch h.unique (hends.mp hended)

/-- What two programs that are run in turn cover: the first what it covers alone, and then, if it
    succeeds, the second with the bytes of the first put before its own. -/
inductive CoversInTurn (m : Machine) (q : Text) (reader : Reader) (answers : List Acceptance)
    (flushFailure : Option IoFailure) (v : World) : Prop
  /-- The first has written and read as much. -/
  | first (h : m.Covers reader (.ofScript answers none) v)
  /-- The second has, on what the first has left. -/
  | next {w u : World} (h : m.Meets reader (.ofScript answers none) (.ended (.ok ()) w))
      (h' : { m with program := q, tape := w.tape }.Covers w.reader
        (.ofScript w.writer.script flushFailure) u)
      (hv : v.Before (u.onWriter (.continuing w.writer.accepted)))

/-- A second program on what the first has left covers what it would behind the first one's end. -/
theorem Unflushed.coversFrom_iff (hu : Unflushed u) (hvalid : u.tape.Valid)
    (fits : q.width < wordLimit) :
    (JumpMachine.ofProgram q m.setup.inputEnd).CoversFrom ⟨0, u.onWriter (.flushing flushFailure)⟩
        v ↔
      ∃ v', { m with program := q, tape := u.tape }.Covers u.reader
          (.ofScript u.writer.script flushFailure) v' ∧
        v.Before (v'.onWriter (.continuing u.writer.accepted)) := by
  have hcovers : ∀ v', { m with program := q, tape := u.tape }.Covers u.reader
      (.ofScript u.writer.script flushFailure) v' ↔ _ :=
    fun v' => covers_iff_coversFrom hvalid fits
  simp only [hcovers, hu.flushing_eq]
  exact JumpMachine.coversFrom_continuing_iff (s := ⟨0, _⟩) u.writer.accepted

/-- What a run over both programs covers, runs over the two in turn cover. -/
theorem covers_append_iff (hp : m.program.Balanced) (htape : m.tape.Valid)
    (fits : (m.program ++ q).width < wordLimit) :
    { m with program := m.program ++ q }.Covers reader (.ofScript answers flushFailure) v ↔
      m.CoversInTurn q reader answers flushFailure v := by
  have hfits := fits_of_append fits
  have hfirst : m.Covers reader (.ofScript answers none) v ↔
      (JumpMachine.ofProgram m.program m.setup.inputEnd).CoversFrom
        ⟨0, ⟨m.tape, reader, .ofScript answers flushFailure⟩⟩ v :=
    (covers_iff_coversFrom htape hfits.1).trans
      (JumpMachine.coversFrom_flushing_iff (s := ⟨0, ⟨m.tape, reader, _⟩⟩)).symm
  have hsecond : ∀ {u : World}, m.Leaves reader (.ofScript answers none) (.ok ()) u →
      ((JumpMachine.ofProgram q m.setup.inputEnd).CoversFrom
          ⟨0, u.onWriter (.flushing flushFailure)⟩ v ↔ _) :=
    fun hleaves => hleaves.unflushed.coversFrom_iff (hleaves.tape_valid htape) hfits.2
  rw [covers_iff_coversFrom (m := { m with program := m.program ++ q }) htape fits,
    JumpMachine.coversFrom_append_iff hp, ← hfirst]
  constructor
  · rintro (h | ⟨u', hflushed, h⟩)
    · exact .first h
    · obtain ⟨u, hleaves, rfl⟩ := leaves_flushing_iff.mp hflushed
      obtain ⟨v', hcovers, hv⟩ := (hsecond hleaves).mp h
      have hended := (meets_ok_iff hp htape hfits.1).mpr ⟨u, hleaves, rfl⟩
      rw [← flushed_script] at hcovers
      rw [← flushed_accepted] at hv
      exact .next hended hcovers hv
  · rintro (h | ⟨hended, hcovers, hv⟩)
    · exact .inl h
    · obtain ⟨u, hleaves, rfl⟩ := (meets_ok_iff hp htape hfits.1).mp hended
      rw [flushed_script] at hcovers
      rw [flushed_accepted] at hv
      exact .inr ⟨_, leaves_flushing_iff.mpr ⟨u, hleaves, rfl⟩,
        (hsecond hleaves).mpr ⟨_, hcovers, hv⟩⟩

/-! ## Repeated runs -/

/-- So many runs, one or more, of one machine over its program, as long as they succeed.  Only the
    last flush can fail, and the bytes of each run come behind those of the runs before. -/
inductive RunsInTurn (flushFailure : Option IoFailure) :
    Nat → Machine → Reader → List Acceptance → Fate → Prop
  /-- The last run. -/
  | last {m : Machine} {reader : Reader} {answers : List Acceptance} {fate : Fate}
      (h : m.Meets reader (.ofScript answers flushFailure) fate) :
      RunsInTurn flushFailure 1 m reader answers fate
  /-- A run goes on for ever. -/
  | endless {n : Nat} {m : Machine} {reader : Reader} {answers : List Acceptance}
      (h : m.Meets reader (.ofScript answers none) .endless) :
      RunsInTurn flushFailure (n + 2) m reader answers .endless
  /-- A run fails, and the others are not made. -/
  | failed {n rounds : Nat} {m : Machine} {reader : Reader} {answers : List Acceptance}
      {error : MachineError} {r : Run}
      (hrun : (m.start reader (.ofScript answers none)).runFor rounds
        = .ok (.finished (.error error) r)) :
      RunsInTurn flushFailure (n + 2) m reader answers
        (.ended (.error error) (r.world.onWriter (.flushing flushFailure)))
  /-- A run succeeds, and the others are made on the machine that it leaves. -/
  | next {n rounds : Nat} {m : Machine} {reader : Reader} {answers : List Acceptance}
      {fate : Fate} {r : Run}
      (hrun : (m.start reader (.ofScript answers none)).runFor rounds = .ok (.finished (.ok ()) r))
      (h : RunsInTurn flushFailure (n + 1) r.machine r.reader r.writer.script fate) :
      RunsInTurn flushFailure (n + 2) m reader answers (fate.continuing r.writer.accepted)

/-- What so many runs of one machine cover, each of them with the bytes of the runs before put
    before its own. -/
inductive RunsCover (flushFailure : Option IoFailure) :
    Nat → Machine → Reader → List Acceptance → World → Prop
  /-- The last run. -/
  | last {m : Machine} {reader : Reader} {answers : List Acceptance} {v : World}
      (h : m.Covers reader (.ofScript answers flushFailure) v) :
      RunsCover flushFailure 1 m reader answers v
  /-- A run that others may follow. -/
  | first {n : Nat} {m : Machine} {reader : Reader} {answers : List Acceptance} {v : World}
      (h : m.Covers reader (.ofScript answers none) v) :
      RunsCover flushFailure (n + 2) m reader answers v
  /-- A run succeeds, and those that follow it are made on the machine that it leaves. -/
  | next {n rounds : Nat} {m : Machine} {reader : Reader} {answers : List Acceptance} {r : Run}
      {u v : World}
      (hrun : (m.start reader (.ofScript answers none)).runFor rounds = .ok (.finished (.ok ()) r))
      (h : RunsCover flushFailure (n + 1) r.machine r.reader r.writer.script u)
      (hv : v.Before (u.onWriter (.continuing r.writer.accepted))) :
      RunsCover flushFailure (n + 2) m reader answers v

/-- A balanced program reports no offset, so no text before it changes what it reports. -/
theorem Meets.behind_eq (h : m.Meets reader writer fate) (hp : m.program.Balanced)
    (htape : m.tape.Valid) (fits : m.program.width < wordLimit) : fate.behind x = fate := by
  cases fate with
  | endless => rfl
  | ended result w =>
      have hio : result = .ok () ∨ ∃ failure, result = .error (.io failure) := by
        obtain ⟨outcome, u, hleaves, heq⟩ := (meets_iff_leaves hp htape fits).mp h
        rcases hleaves.result_cases hp with rfl | ⟨failure, rfl⟩
        · have hflush : result = u.writer.flush.1.mapError .io := (Prod.mk.inj heq).1
          rw [hflush]
          rcases u.writer.flush.1 with failure | ⟨⟩
          · exact .inr ⟨failure, rfl⟩
          · exact .inl rfl
        · exact .inr ⟨failure, (Prod.mk.inj heq).1⟩
      rcases hio with rfl | ⟨failure, rfl⟩ <;> rfl

/-- A balanced text repeated is balanced. -/
theorem balanced_flatten_replicate (hp : p.Balanced) (n : Nat) :
    Text.Balanced (List.replicate n p).flatten := by
  induction n with
  | zero => exact .nil
  | succ n ih =>
      rw [List.replicate_succ, List.flatten_cons]
      exact hp.append ih

/-- A program repeated once is the program. -/
theorem flatten_replicate_one (p : Text) : (List.replicate (0 + 1) p).flatten = p := by
  simp

/-- A program repeated once more is the program and then the program repeated. -/
theorem flatten_replicate_succ (p : Text) (n : Nat) :
    (List.replicate (n + 1) p).flatten = p ++ (List.replicate n p).flatten := by
  rw [List.replicate_succ, List.flatten_cons]

/-- The machine that a run leaves differs from the one before in its tape and its loops only. -/
theorem left_of_runFor (htape : m.tape.Valid) (fits : m.program.width < wordLimit) {rounds : Nat}
    {r : Run} (hrun : (m.start reader writer).runFor rounds = .ok (.finished result r)) :
    r.machine.program = m.program ∧ r.machine.setup = m.setup ∧ r.machine.tape.Valid := by
  obtain ⟨⟨front, back, hready⟩, hsetup⟩ := (Run.intact_start htape fits _ _).of_runFor hrun
  exact ⟨hready.program_eq, hsetup, hready.tape⟩

/-- What a run over a repeated program comes to, repeated runs come to. -/
theorem meets_repeated_iff (n : Nat) : ∀ {m reader answers fate}, m.program.Balanced →
    m.tape.Valid → Text.width (List.replicate (n + 1) m.program).flatten < wordLimit →
    ({ m with program := (List.replicate (n + 1) m.program).flatten }.Meets reader
        (.ofScript answers flushFailure) fate ↔
      RunsInTurn flushFailure (n + 1) m reader answers fate) := by
  induction n with
  | zero =>
      intro m reader answers fate hp htape fits
      rw [flatten_replicate_one]
      constructor
      · exact .last
      · rintro ⟨h⟩
        exact h
  | succ n ih =>
      intro m reader answers fate hp htape fits
      rw [flatten_replicate_succ] at fits ⊢
      rw [meets_append_iff hp htape fits]
      have hfits := fits_of_append fits
      have hbehind : ∀ {tape : Tape} {reader : Reader} {writer : Writer} {fate : Fate}, tape.Valid →
          { m with program := (List.replicate (n + 1) m.program).flatten, tape := tape
            }.Meets reader writer fate → fate.behind m.program = fate :=
        fun hvalid h => h.behind_eq (balanced_flatten_replicate hp _) hvalid hfits.2
      have hnext : ∀ {rounds : Nat} {r : Run} {fate : Fate},
          (m.start reader (.ofScript answers none)).runFor rounds = .ok (.finished (.ok ()) r) →
          r.machine.tape.Valid ∧
          ({ m with program := (List.replicate (n + 1) m.program).flatten, tape := r.machine.tape
              }.Meets r.reader (.ofScript r.writer.script flushFailure) fate ↔
            RunsInTurn flushFailure (n + 1) r.machine r.reader r.writer.script fate) := by
        intro rounds r fate hrun
        obtain ⟨hprogram, hsetup, hvalid⟩ := left_of_runFor htape hfits.1 hrun
        refine ⟨hvalid, Iff.trans ?_
          (ih (m := r.machine) (hprogram ▸ hp) hvalid (hprogram ▸ hfits.2))⟩
        refine meets_congr ?_ hsetup.symm rfl
        rw [hprogram]
      constructor
      · intro h
        cases h with
        | endless h => exact .endless h
        | failed h =>
            obtain ⟨rounds, r, hrun, rfl⟩ := h
            exact .failed hrun
        | next fate h h' =>
            obtain ⟨rounds, r, hrun, rfl⟩ := h
            obtain ⟨hvalid, hiff⟩ := hnext hrun
            rw [Fate.behind_continuing, hbehind hvalid h']
            exact .next hrun (hiff.mp h')
      · intro h
        cases h with
        | endless h => exact .endless h
        | failed hrun => exact .failed ⟨_, _, hrun, rfl⟩
        | @next _ _ _ _ _ fate r hrun h =>
            obtain ⟨hvalid, hiff⟩ := hnext hrun
            have h' := hiff.mpr h
            have hturn := MeetsInTurn.next fate ⟨_, _, hrun, rfl⟩ h'
            rwa [Fate.behind_continuing, hbehind hvalid h'] at hturn

/-- What a run over a repeated program covers, repeated runs cover. -/
theorem covers_repeated_iff (n : Nat) : ∀ {m reader answers v}, m.program.Balanced →
    m.tape.Valid → Text.width (List.replicate (n + 1) m.program).flatten < wordLimit →
    ({ m with program := (List.replicate (n + 1) m.program).flatten }.Covers reader
        (.ofScript answers flushFailure) v ↔
      RunsCover flushFailure (n + 1) m reader answers v) := by
  induction n with
  | zero =>
      intro m reader answers v hp htape fits
      rw [flatten_replicate_one]
      constructor
      · exact .last
      · rintro ⟨h⟩
        exact h
  | succ n ih =>
      intro m reader answers v hp htape fits
      rw [flatten_replicate_succ] at fits ⊢
      rw [covers_append_iff hp htape fits]
      have hfits := fits_of_append fits
      have hnext : ∀ {rounds : Nat} {r : Run} {u : World},
          (m.start reader (.ofScript answers none)).runFor rounds = .ok (.finished (.ok ()) r) →
          ({ m with program := (List.replicate (n + 1) m.program).flatten, tape := r.machine.tape
              }.Covers r.reader (.ofScript r.writer.script flushFailure) u ↔
            RunsCover flushFailure (n + 1) r.machine r.reader r.writer.script u) := by
        intro rounds r u hrun
        obtain ⟨hprogram, hsetup, hvalid⟩ := left_of_runFor htape hfits.1 hrun
        refine Iff.trans ?_ (ih (m := r.machine) (hprogram ▸ hp) hvalid (hprogram ▸ hfits.2))
        refine covers_congr ?_ hsetup.symm rfl
        rw [hprogram]
      constructor
      · rintro (h | ⟨⟨rounds, r, hrun, rfl⟩, h, hv⟩)
        · exact .first h
        · exact .next hrun ((hnext hrun).mp h) hv
      · intro h
        cases h with
        | first h => exact .first h
        | next hrun h hv => exact .next ⟨_, _, hrun, rfl⟩ ((hnext hrun).mpr h) hv

/-- **PROGRAMS COMPOSE**: if all brackets of a program match, a run over it and any text behind it
    comes to what a run over the program and then, if that succeeded, a run over the text on what
    is left come to; and a run over the program repeated comes to what repeated runs come to.  On
    the way, and without end if it goes on for ever, it writes and reads what they do, with the
    bytes of each run before those of the next one. -/
theorem programs_compose (hp : m.program.Balanced) (htape : m.tape.Valid) :
    (∀ q reader answers flushFailure, (m.program ++ q).width < wordLimit →
      (∃! fate, { m with program := m.program ++ q }.Meets reader (.ofScript answers flushFailure)
        fate) ∧
      (∀ fate, { m with program := m.program ++ q }.Meets reader (.ofScript answers flushFailure)
          fate ↔
        m.MeetsInTurn q reader answers flushFailure fate) ∧
      ∀ w, { m with program := m.program ++ q }.Covers reader (.ofScript answers flushFailure) w ↔
        m.CoversInTurn q reader answers flushFailure w) ∧
    ∀ n reader answers flushFailure,
      Text.width (List.replicate (n + 1) m.program).flatten < wordLimit →
      (∃! fate, { m with program := (List.replicate (n + 1) m.program).flatten }.Meets reader
        (.ofScript answers flushFailure) fate) ∧
      (∀ fate, { m with program := (List.replicate (n + 1) m.program).flatten }.Meets reader
          (.ofScript answers flushFailure) fate ↔
        RunsInTurn flushFailure (n + 1) m reader answers fate) ∧
      ∀ w, { m with program := (List.replicate (n + 1) m.program).flatten }.Covers reader
          (.ofScript answers flushFailure) w ↔
        RunsCover flushFailure (n + 1) m reader answers w := by
  constructor
  · intro q reader answers flushFailure fits
    refine ⟨existsUnique_meets (m := { m with program := m.program ++ q }) htape fits _ _, ?_, ?_⟩
    · exact fun fate => meets_append_iff hp htape fits
    · exact fun w => covers_append_iff hp htape fits
  · intro n reader answers flushFailure fits
    refine ⟨existsUnique_meets
      (m := { m with program := (List.replicate (n + 1) m.program).flatten }) htape fits _ _,
      ?_, ?_⟩
    · exact fun fate => meets_repeated_iff n hp htape fits
    · exact fun w => covers_repeated_iff n hp htape fits

/-- A loop and a `.` on a machine with two cells that points at the second one, and behind them a
    text that fails at its offset 2; a `+` and a `.` and then a loop that prints for ever; and a `+`
    and a `.` three times on one cell. -/
theorem programs_compose_on_two_cells :
    (Text.Balanced ['+', '[', '-', 'é', ']', '.'] ∧ Tape.Valid ⟨#[0, 1], 1⟩ ∧
      Text.width ['+', '[', '-', 'é', ']', '.', '+', '.', ']'] < wordLimit ∧
      Meets ⟨['+', '[', '-', 'é', ']', '.', '+', '.', ']'], MachineSetup.standard, ⟨#[0, 1], 1⟩, []⟩
        (Reader.ofBytes []) (.ofScript [.failed .interrupted, .accepted] none)
        (.ended (.error (.unmatchedLoopEnd 9))
          ⟨⟨#[0, 1], 1⟩, Reader.ofBytes [], ⟨[], none, #[0, 1], 0⟩⟩)) ∧
    Text.Balanced ['+', '.'] ∧ Tape.Valid ⟨#[7], 0⟩ ∧
      Text.width ['+', '.', '[', '.', ']'] < wordLimit ∧
      Covers ⟨['+', '.', '[', '.', ']'], MachineSetup.standard, ⟨#[7], 0⟩, []⟩ (Reader.ofBytes [])
        (.ofScript [] none) ⟨⟨#[8], 0⟩, Reader.ofBytes [], ⟨[], none, #[8, 8, 8], 0⟩⟩ ∧
      Text.width ['+', '.', '+', '.', '+', '.'] < wordLimit ∧
      RunsInTurn none 3 ⟨['+', '.'], MachineSetup.standard, ⟨#[7], 0⟩, []⟩ (Reader.ofBytes []) []
        (.ended (.ok ()) ⟨⟨#[10], 0⟩, Reader.ofBytes [], ⟨[], none, #[8, 9, 10], 1⟩⟩) := by
  have hminus : Text.Balanced ['-', 'é'] :=
    .plain (by decide) (by decide) (.plain (by decide) (by decide) .nil)
  have hdot : Text.Balanced ['.'] := .plain (by decide) (by decide) .nil
  have hloop : Text.Balanced ('[' :: (['-', 'é'] ++ ']' :: ['.'])) := .loop hminus hdot
  have hfirst : Text.Balanced ['+', '[', '-', 'é', ']', '.'] :=
    .plain (by decide) (by decide) hloop
  have hplain : Text.Balanced ['+', '.'] := .plain (by decide) (by decide) hdot
  have htape : Tape.Valid ⟨#[0, 1], 1⟩ := ⟨by decide, by decide⟩
  have htape' : Tape.Valid ⟨#[7], 0⟩ := ⟨by decide, by decide⟩
  have fits : Text.width ['+', '[', '-', 'é', ']', '.', '+', '.', ']'] < wordLimit := by decide
  have fits' : Text.width ['+', '.', '[', '.', ']'] < wordLimit := by decide
  have fits'' : Text.width ['+', '.', '+', '.', '+', '.'] < wordLimit := by decide
  obtain ⟨hsequence, hrepeated⟩ := programs_compose
    (m := ⟨['+', '.'], MachineSetup.standard, ⟨#[7], 0⟩, []⟩) hplain htape'
  refine ⟨⟨hfirst, htape, fits, ?_⟩, hplain, htape', fits', ?_, fits'', ?_⟩
  · -- the program alone takes twelve steps of the jump machine, the text behind it three
    have hmeets : Meets ⟨['+', '[', '-', 'é', ']', '.'], MachineSetup.standard, ⟨#[0, 1], 1⟩, []⟩
        (Reader.ofBytes []) (.ofScript [.failed .interrupted, .accepted] none)
        (.ended (.ok ()) ⟨⟨#[0, 0], 1⟩, Reader.ofBytes [], ⟨[], none, #[0], 1⟩⟩) :=
      (meets_iff_endsFrom htape (by decide)).mpr (JumpMachine.endsFrom_iff_iterate.mpr ⟨12, rfl⟩)
    have hthen : Meets ⟨['+', '.', ']'], MachineSetup.standard, ⟨#[0, 0], 1⟩, []⟩
        (Reader.ofBytes []) (.ofScript [] none)
        (.ended (.error (.unmatchedLoopEnd 2))
          ⟨⟨#[0, 1], 1⟩, Reader.ofBytes [], ⟨[], none, #[1], 0⟩⟩) :=
      (meets_iff_endsFrom ⟨by decide, by decide⟩ (by decide)).mpr
        (JumpMachine.endsFrom_iff_iterate.mpr ⟨3, rfl⟩)
    exact (((programs_compose hfirst htape).1 _ _ _ _ fits).2.1 _).mpr (.next _ hmeets hthen)
  · have hmeets : Meets ⟨['+', '.'], MachineSetup.standard, ⟨#[7], 0⟩, []⟩ (Reader.ofBytes [])
        (.ofScript [] none) (.ended (.ok ()) ⟨⟨#[8], 0⟩, Reader.ofBytes [], ⟨[], none, #[8], 1⟩⟩) :=
      (meets_iff_endsFrom htape' (by decide)).mpr (JumpMachine.endsFrom_iff_iterate.mpr ⟨3, rfl⟩)
    -- the loop has printed twice after five steps
    have hthen : Covers ⟨['[', '.', ']'], MachineSetup.standard, ⟨#[8], 0⟩, []⟩ (Reader.ofBytes [])
        (.ofScript [] none) ⟨⟨#[8], 0⟩, Reader.ofBytes [], ⟨[], none, #[8, 8], 0⟩⟩ :=
      (covers_iff_coversFrom ⟨by decide, by decide⟩ (by decide)).mpr
        (JumpMachine.coversFrom_iff_iterate.mpr ⟨5, World.before_of_eq rfl rfl⟩)
    exact ((hsequence _ _ _ _ fits').2.2 _).mpr (.next hmeets hthen (.refl _))
  · exact ((hrepeated 2 (Reader.ofBytes []) [] none fits'').2.1 _).mp
      ((meets_iff_endsFrom htape' fits'').mpr (JumpMachine.endsFrom_iff_iterate.mpr ⟨7, rfl⟩))

/-! ## Loops -/

/-- On a zero cell a run over a loop and a text behind it keeps up with one over the text, and the
    other way round. -/
theorem keepsUp_passed (hb : b.Balanced) (htape : m.tape.Valid)
    (fits : Text.width ('[' :: (b ++ ']' :: q)) < wordLimit) (hq : q.width < wordLimit)
    (hzero : m.tape.cell = 0) :
    KeepsUp { m with program := q } { m with program := '[' :: (b ++ ']' :: q) } reader writer ∧
      KeepsUp { m with program := '[' :: (b ++ ']' :: q) } { m with program := q } reader writer := by
  have hcovers : ∀ {t : Text} {w : World}, t.width < wordLimit →
      ({ m with program := t }.Covers reader writer w ↔ _) :=
    fun ht => covers_iff_coversFrom htape ht
  refine keepsUp_of_covers_iff fun w => ?_
  rw [hcovers fits, hcovers hq]
  exact (JumpMachine.coversFrom_passed_iff hb hzero).symm

/-- On another cell a run over a loop keeps up with one over its body and the loop, and the other way
    round. -/
theorem keepsUp_entered (hb : b.Balanced) (htape : m.tape.Valid)
    (fits : Text.width (b ++ '[' :: (b ++ ']' :: q)) < wordLimit)
    (hloop : Text.width ('[' :: (b ++ ']' :: q)) < wordLimit) (hcell : m.tape.cell ≠ 0) :
    KeepsUp { m with program := '[' :: (b ++ ']' :: q) }
        { m with program := b ++ '[' :: (b ++ ']' :: q) } reader writer ∧
      KeepsUp { m with program := b ++ '[' :: (b ++ ']' :: q) }
        { m with program := '[' :: (b ++ ']' :: q) } reader writer := by
  have hcovers : ∀ {t : Text} {w : World}, t.width < wordLimit →
      ({ m with program := t }.Covers reader writer w ↔ _) :=
    fun ht => covers_iff_coversFrom htape ht
  refine keepsUp_of_covers_iff fun w => ?_
  rw [hcovers fits, hcovers hloop]
  exact (JumpMachine.coversFrom_entered_iff hb hcell).trans
    (JumpMachine.coversFrom_append_iff hb).symm

/-- **LOOPS UNROLL**: a run over a loop and a text behind it comes to what a run over the text alone
    comes to if the current cell is zero; if it is not, a run with the body of the loop put before
    both comes to what the run without it comes to.  In either case the offsets that are reported
    differ by the width of what one program has before the other, and whether or not the two runs
    end, each of them comes to write and to read whatever the other one does. -/
theorem loops_unroll (hb : b.Balanced) (htape : m.tape.Valid) (q : Text) (reader : Reader)
    (writer : Writer) :
    (Text.width ('[' :: (b ++ ']' :: q)) < wordLimit →
      (∃! fate, { m with program := '[' :: (b ++ ']' :: q) }.Meets reader writer fate) ∧
      (m.tape.cell = 0 →
        (∀ fate, { m with program := '[' :: (b ++ ']' :: q) }.Meets reader writer fate ↔
          ∃ fate', { m with program := q }.Meets reader writer fate' ∧
            fate = fate'.behind ('[' :: (b ++ [']']))) ∧
        KeepsUp { m with program := q } { m with program := '[' :: (b ++ ']' :: q) } reader writer ∧
        KeepsUp { m with program := '[' :: (b ++ ']' :: q) } { m with program := q } reader
          writer)) ∧
    (Text.width (b ++ '[' :: (b ++ ']' :: q)) < wordLimit → m.tape.cell ≠ 0 →
      (∀ fate, { m with program := b ++ '[' :: (b ++ ']' :: q) }.Meets reader writer fate ↔
        ∃ fate', { m with program := '[' :: (b ++ ']' :: q) }.Meets reader writer fate' ∧
          fate = fate'.behind b) ∧
      KeepsUp { m with program := '[' :: (b ++ ']' :: q) }
        { m with program := b ++ '[' :: (b ++ ']' :: q) } reader writer ∧
      KeepsUp { m with program := b ++ '[' :: (b ++ ']' :: q) }
        { m with program := '[' :: (b ++ ']' :: q) } reader writer) := by
  constructor
  · intro fits
    refine ⟨existsUnique_meets (m := { m with program := '[' :: (b ++ ']' :: q) }) htape fits _ _,
      fun hzero => ?_⟩
    have hq : q.width < wordLimit := by
      simp only [Text.width_cons, Text.width_append] at fits
      omega
    refine ⟨?_, keepsUp_passed hb htape fits hq hzero⟩
    exact meets_behind_iff htape fits hq fun _ _ => JumpMachine.endsFrom_passed_iff hb hzero
  · intro fits hcell
    have hloop := (fits_of_append fits).2
    refine ⟨?_, keepsUp_entered hb htape fits hloop hcell⟩
    refine meets_behind_iff htape fits hloop fun result w => ?_
    -- the loop is entered, and then both are in the body and go on with the loop
    have hentered : ∀ result', (JumpMachine.ofProgram ('[' :: (b ++ ']' :: q))
        m.setup.inputEnd).EndsFrom ⟨0, ⟨m.tape, reader, writer⟩⟩ result' w ↔ _ :=
      fun result' => JumpMachine.endsFrom_entered_iff hb hcell
    simp only [hentered]
    exact JumpMachine.endsFrom_append_iff hb

/-- On a cell that holds two, a loop that prints and counts down to zero, and its body before it,
    both with a text behind them that fails; and on a zero cell the loop and the text alone. -/
theorem loops_unroll_on_one_cell :
    Text.Balanced ['.', '-', 'é'] ∧ Tape.Valid ⟨#[2], 0⟩ ∧ Tape.Valid ⟨#[0], 0⟩ ∧
      Text.width (['.', '-', 'é'] ++ '[' :: (['.', '-', 'é'] ++ ']' :: ['+', ']'])) < wordLimit ∧
      Tape.cell ⟨#[2], 0⟩ ≠ 0 ∧ Tape.cell ⟨#[0], 0⟩ = 0 ∧
      Meets ⟨['.', '-', 'é', '[', '.', '-', 'é', ']', '+', ']'], MachineSetup.standard,
          ⟨#[2], 0⟩, []⟩ (Reader.ofBytes []) .accepting
        (.ended (.error (.unmatchedLoopEnd 11))
          ⟨⟨#[1], 0⟩, Reader.ofBytes [], ⟨[], none, #[2, 1], 0⟩⟩) ∧
      Meets ⟨['[', '.', '-', 'é', ']', '+', ']'], MachineSetup.standard, ⟨#[0], 0⟩, []⟩
        (Reader.ofBytes []) .accepting
        (.ended (.error (.unmatchedLoopEnd 7))
          ⟨⟨#[1], 0⟩, Reader.ofBytes [], ⟨[], none, #[], 0⟩⟩) := by
  have hb : Text.Balanced ['.', '-', 'é'] :=
    .plain (by decide) (by decide) (.plain (by decide) (by decide)
      (.plain (by decide) (by decide) .nil))
  have htwo : Tape.Valid ⟨#[2], 0⟩ := ⟨by decide, by decide⟩
  have hnone : Tape.Valid ⟨#[0], 0⟩ := ⟨by decide, by decide⟩
  have fits : Text.width (['.', '-', 'é'] ++ '[' :: (['.', '-', 'é'] ++ ']' :: ['+', ']']))
      < wordLimit := by decide
  have hcell : Tape.cell ⟨#[2], 0⟩ ≠ 0 := by decide
  have hzero : Tape.cell ⟨#[0], 0⟩ = 0 := rfl
  refine ⟨hb, htwo, hnone, fits, hcell, hzero, ?_, ?_⟩
  · have hloop : Meets ⟨['[', '.', '-', 'é', ']', '+', ']'], MachineSetup.standard, ⟨#[2], 0⟩, []⟩
        (Reader.ofBytes []) .accepting
        (.ended (.error (.unmatchedLoopEnd 7))
          ⟨⟨#[1], 0⟩, Reader.ofBytes [], ⟨[], none, #[2, 1], 0⟩⟩) :=
      (meets_iff_endsFrom htwo (by decide)).mpr (JumpMachine.endsFrom_iff_iterate.mpr ⟨13, rfl⟩)
    exact (((loops_unroll (m := ⟨[], MachineSetup.standard, ⟨#[2], 0⟩, []⟩) hb htwo _ _ _).2 fits
      hcell).1 _).mpr ⟨_, hloop, rfl⟩
  · have hrest : Meets ⟨['+', ']'], MachineSetup.standard, ⟨#[0], 0⟩, []⟩
        (Reader.ofBytes []) .accepting
        (.ended (.error (.unmatchedLoopEnd 1))
          ⟨⟨#[1], 0⟩, Reader.ofBytes [], ⟨[], none, #[], 0⟩⟩) :=
      (meets_iff_endsFrom hnone (by decide)).mpr (JumpMachine.endsFrom_iff_iterate.mpr ⟨2, rfl⟩)
    exact ((((loops_unroll (m := ⟨[], MachineSetup.standard, ⟨#[0], 0⟩, []⟩) hb hnone _ _ _).1
      (by decide)).2 hzero).1 _).mpr ⟨_, hrest, rfl⟩

end Machine

end TextCursor
