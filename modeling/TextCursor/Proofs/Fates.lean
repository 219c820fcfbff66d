import TextCursor.Proofs.JumpSimulation
import TextCursor.Proofs.Relocation

/-! # What a run comes to

    A run ends with a result and leaves a world, or it goes on for ever; that is
    its `Fate`.  Each run has one and only one (`Machine.existsUnique_meets`), so
    programs can be compared by what their runs come to.  Underway it reports events,
    and takes none of them back (`Run.Intact.log_prefix`).

    A run walks and the jump machine jumps, so a run that ends is a jump machine
    that ends (`Machine.meets_iff_endsFrom`), and a law of the jump machine about
    how programs end is a law of fates: about programs behind other texts
    (`Machine.meets_behind_iff`), and about worlds changed in a way that no
    instruction notices (`Machine.meets_onWorld_iff`). -/

namespace TextCursor

namespace Run

variable {r start : Run} {o : Outcome} {program front back : Text} {setup : MachineSetup}
  {rounds : Nat}

/-- A run that is ready somewhere in its program, on a given setup. -/
structure Intact (program : Text) (setup : MachineSetup) (r : Run) : Prop where
  ready : ∃ front back, r.Ready program front back
  setup_eq : r.machine.setup = setup

/-- Nothing that a round does changes the program or the setup, or leads off the tape. -/
theorem Intact.round_ok (h : r.Intact program setup) :
    ∃ o, r.round = .ok o ∧ o.run.Intact program setup := by
  obtain ⟨⟨front, back, hready⟩, hsetup⟩ := h
  have hsettle : ∀ {r' : Run} {front' back' : Text}, r'.Ready program front' back' →
      r'.machine.setup = setup → r'.settle.run.Intact program setup := by
    intro r' front' back' hready' hsetup'
    exact ⟨⟨_, _, hready'.settle_run⟩, by rw [machine_settle, hsetup']⟩
  cases back with
  | nil => exact ⟨_, hready.round_end, hsettle hready hsetup⟩
  | cons d back =>
      obtain ⟨o, hround, hcase⟩ := Run.round_ok hready
      refine ⟨o, hround, ?_⟩
      cases hcase with
      | opened hd h => exact hsettle h hsetup
      | stray hd hnil h => exact ⟨⟨_, _, h⟩, hsetup⟩
      | closed hd hloops hskip h => exact hsettle h hsetup
      | rewound hd hloops hskip hfront hbody h => exact ⟨⟨_, _, h⟩, hsetup⟩
      | skipped hopen hclose hskip h => exact hsettle h hsetup
      | acted hopen hclose hskip hact h => exact hsettle h hsetup
      | failed hopen hclose hskip hact h => exact ⟨⟨_, _, h⟩, hsetup⟩

/-- A run starts intact. -/
theorem intact_start {m : Machine} (htape : m.tape.Valid) (fits : m.program.width < wordLimit)
    (reader : Reader) (writer : Writer) : (m.start reader writer).Intact m.program m.setup :=
  ⟨⟨_, _, ready_start fits htape reader writer⟩, rfl⟩

/-- No number of rounds meets a fault, and what they come to is intact. -/
theorem Intact.runFor_ok (h : start.Intact program setup) (rounds : Nat) :
    ∃ o, start.runFor rounds = .ok o ∧ o.run.Intact program setup :=
  Run.runFor_run (fun _ => Intact.round_ok) rounds start h

/-- An intact run stays intact through any number of rounds. -/
theorem Intact.of_runFor (h : start.Intact program setup) (hrun : start.runFor rounds = .ok o) :
    o.run.Intact program setup := by
  obtain ⟨o', hok, hkept⟩ := h.runFor_ok rounds
  obtain rfl := Except.ok.inj (hrun.symm.trans hok)
  exact hkept

/-- Whether a run ends or not, a round that executes nothing leaves the tape, the input and what
    was written as they were. -/
theorem settle_leaves (r : Run) : r.settle.run.machine.tape = r.machine.tape ∧
    r.settle.run.reader = r.reader ∧ r.settle.run.writer.accepted = r.writer.accepted := by
  refine ⟨by rw [machine_settle], ?_⟩
  unfold settle
  split
  · have hworld := r.world_ended
    have hreader : r.ended.reader = r.reader := congrArg World.reader hworld
    have hwriter : r.ended.writer = r.writer.flush.2 := congrArg World.writer hworld
    exact ⟨hreader, by rw [Outcome.run, hwriter, Writer.accepted_flush]⟩
  · exact ⟨rfl, rfl⟩

/-! ## Reports -/

/-- The event that a run reports as the one behind so many others, if it goes on for long enough. -/
def Reports (start : Run) (k : Nat) (event : MachineEvent) : Prop :=
  ∃ rounds o, start.runFor rounds = .ok o ∧ o.run.log[k]? = some event

/-- At the end of a program no report is taken back. -/
theorem log_ended (r : Run) : r.ended.log = if r.machine.loops.isEmpty then r.log
    else r.log.push (.endedInside r.machine.loops.length) := by
  rw [ended]
  cases r.machine.loops.isEmpty <;> rfl

/-- Settling a run takes no event back. -/
theorem log_prefix_settle (r : Run) : r.log.toList <+: r.settle.run.log.toList := by
  rw [settle]
  split
  · show r.log.toList <+: r.ended.log.toList
    rw [log_ended]
    split
    · exact List.prefix_refl _
    · simp
  · exact List.prefix_refl _

/-- No round takes a report back. -/
theorem Round.log_prefix {d : Char} (h : Round program front d back r o) :
    r.log.toList <+: o.run.log.toList := by
  have hreport : ∀ event, r.log.toList <+: (r.log.push event).toList := by
    intro event
    simp
  cases h with
  | opened hd h =>
      have hopened : r.log.toList <+: (r.opened front.width).log.toList := hreport _
      exact hopened.trans (log_prefix_settle _)
  | stray hd hnil h => exact hreport _
  | closed hd hloops hskip h => exact log_prefix_settle (r.closed _)
  | rewound hd hloops hskip hfront hbody h => exact hreport _
  | skipped hopen hclose hskip h => exact log_prefix_settle (r.passed d)
  | acted hopen hclose hskip hact h => exact log_prefix_settle (r.acted d _)
  | failed hopen hclose hskip hact h => exact List.prefix_refl _

/-- Nothing that was reported is taken back later. -/
theorem Intact.log_prefix (h : start.Intact program setup) {o' : Outcome} {later : Nat}
    (hrun : start.runFor rounds = .ok o) (hrun' : start.runFor later = .ok o')
    (hle : rounds ≤ later) : o.run.log.toList <+: o'.run.log.toList := by
  have hmore := runFor_add hrun (later - rounds)
  rw [Nat.add_sub_cancel' hle, hrun'] at hmore
  cases o with
  | finished result r =>
      obtain rfl := Except.ok.inj hmore
      exact List.prefix_refl _
  | running r =>
      have hround : ∀ s : Run, s.Intact program setup ∧ r.log.toList <+: s.log.toList →
          ∃ o, s.round = .ok o ∧ o.run.Intact program setup ∧
            r.log.toList <+: o.run.log.toList := by
        rintro s ⟨hs, hprefix⟩
        obtain ⟨o, hok, hintact⟩ := hs.round_ok
        refine ⟨o, hok, hintact, hprefix.trans ?_⟩
        obtain ⟨front, back, hready⟩ := hs.ready
        cases back with
        | nil =>
            obtain rfl := Except.ok.inj (hok.symm.trans hready.round_end)
            exact log_prefix_settle s
        | cons d back =>
            obtain ⟨o', hok', hcase⟩ := Run.round_ok hready
            obtain rfl := Except.ok.inj (hok.symm.trans hok')
            exact hcase.log_prefix
      obtain ⟨o'', hok, -, hprefix⟩ := Run.runFor_run hround (later - rounds) r
        ⟨h.of_runFor hrun, List.prefix_refl _⟩
      obtain rfl := Except.ok.inj (hmore.trans hok)
      exact hprefix

/-- What was reported stays where it stands in the log. -/
theorem Intact.report_stays (h : start.Intact program setup) {o' : Outcome} {later k : Nat}
    {event : MachineEvent} (hrun : start.runFor rounds = .ok o)
    (hrun' : start.runFor later = .ok o') (hle : rounds ≤ later)
    (hevent : o.run.log[k]? = some event) : o'.run.log[k]? = some event := by
  obtain ⟨more, hmore⟩ := h.log_prefix hrun hrun' hle
  rw [← Array.getElem?_toList] at hevent ⊢
  obtain ⟨hk, -⟩ := List.getElem?_eq_some_iff.mp hevent
  rw [← hmore, List.getElem?_append_left hk, hevent]

end Run

/-! ## Fates -/

/-- What a run comes to: a result and a world, or it goes on for ever. -/
inductive Fate where
  | ended (result : Except MachineError Unit) (w : World)
  | endless

namespace Fate

/-- A fate told in another way, in another world. -/
def map (tell : Except MachineError Unit → Except MachineError Unit) (change : World → World) :
    Fate → Fate
  | .ended result w => .ended (tell result) (change w)
  | .endless => .endless

/-- A fate as it is told when a text stands before the program. -/
def behind (front : Text) : Fate → Fate
  | .ended result w => .ended (result.mapError (.behind front)) w
  | .endless => .endless

/-- A fate with some bytes accepted before all others. -/
def continuing (bytes : Array UInt8) : Fate → Fate
  | .ended result w => .ended result (w.onWriter (.continuing bytes))
  | .endless => .endless

/-- A text before the program changes the offsets in a fate, and nothing else. -/
theorem behind_eq_map (front : Text) (fate : Fate) :
    fate.behind front = fate.map (Except.mapError (.behind front)) id := by
  cases fate <;> rfl

/-- The text and the bytes may be put before in either order. -/
theorem behind_continuing (front : Text) (bytes : Array UInt8) (fate : Fate) :
    (fate.continuing bytes).behind front = (fate.behind front).continuing bytes := by
  cases fate <;> rfl

end Fate

namespace Machine

/-- A run of a machine comes to a fate.  One that goes on for ever meets no fault either. -/
def Meets (m : Machine) (reader : Reader) (writer : Writer) : Fate → Prop
  | .ended result w =>
    ∃ rounds r, (m.start reader writer).runFor rounds = .ok (.finished result r) ∧ r.world = w
  | .endless => ∀ rounds, ∃ r, (m.start reader writer).runFor rounds = .ok (.running r)

variable {m m' : Machine} {reader reader' : Reader} {writer writer' : Writer}
  {answers : List Acceptance} {flushFailure : Option IoFailure} {fate : Fate}
  {result result' : Except MachineError Unit} {w w' : World} {p q b x : Text}

/-- A run that ends leaves its tape in order. -/
theorem Meets.tape_valid (h : m.Meets reader writer (.ended result w)) (htape : m.tape.Valid)
    (fits : m.program.width < wordLimit) : w.tape.Valid := by
  obtain ⟨rounds, r, hrun, rfl⟩ := h
  obtain ⟨front, back, hready⟩ := ((Run.intact_start htape fits reader writer).of_runFor hrun).ready
  exact hready.tape

/-- A run comes to one fate. -/
theorem Meets.unique {fate' : Fate} (h : m.Meets reader writer fate)
    (h' : m.Meets reader writer fate') : fate = fate' := by
  have hclash : ∀ {result w}, m.Meets reader writer (.ended result w) →
      ¬ m.Meets reader writer .endless := by
    rintro result w ⟨rounds, r, hrun, -⟩ hendless
    obtain ⟨r', hrunning⟩ := hendless rounds
    exact nomatch hrun.symm.trans hrunning
  cases fate with
  | endless =>
      cases fate' with
      | endless => rfl
      | ended result' w' => exact absurd h (hclash h')
  | ended result w =>
      cases fate' with
      | endless => exact absurd h' (hclash h)
      | ended result' w' =>
          obtain ⟨rounds, r, hrun, rfl⟩ := h
          obtain ⟨rounds', r', hrun', rfl⟩ := h'
          have hsame : Outcome.finished result r = .finished result' r' := by
            rcases Nat.le_total rounds rounds' with hle | hle
            · exact (Outcome.eq_of_runFor_finished (o := .running _) hrun hrun' hle).symm
            · exact Outcome.eq_of_runFor_finished (o := .running _) hrun' hrun hle
          obtain ⟨rfl, rfl⟩ := Outcome.finished.inj hsame
          rfl

/-- A run with a known fate has no other one. -/
theorem Meets.iff_eq (h : m.Meets reader writer fate) (other : Fate) :
    m.Meets reader writer other ↔ other = fate := by
  constructor
  · intro hother
    exact hother.unique h
  · rintro rfl
    exact h

/-- A run goes on for ever if it does not end: there is no third way. -/
theorem meets_endless_iff (htape : m.tape.Valid) (fits : m.program.width < wordLimit) :
    m.Meets reader writer .endless ↔ ∀ result w, ¬ m.Meets reader writer (.ended result w) := by
  constructor
  · intro h result w hended
    exact nomatch h.unique hended
  · intro h rounds
    obtain ⟨o, hok, -⟩ := (Run.intact_start htape fits reader writer).runFor_ok rounds
    cases o with
    | running r => exact ⟨r, hok⟩
    | finished result r => exact absurd ⟨rounds, r, hok, rfl⟩ (h result r.world)

/-- **Every run comes to something**, and to one thing only. -/
theorem existsUnique_meets (htape : m.tape.Valid) (fits : m.program.width < wordLimit)
    (reader : Reader) (writer : Writer) : ∃! fate, m.Meets reader writer fate := by
  refine existsUnique_of_exists_of_unique ?_ fun _ _ => Meets.unique
  by_cases hended : ∃ result w, m.Meets reader writer (.ended result w)
  · obtain ⟨result, w, h⟩ := hended
    exact ⟨_, h⟩
  · refine ⟨.endless, (meets_endless_iff htape fits).mpr fun result w h => ?_⟩
    exact hended ⟨result, w, h⟩

/-- A run does not see the loops that an earlier run has left open. -/
theorem meets_congr (hprogram : m.program = m'.program) (hsetup : m.setup = m'.setup)
    (htape : m.tape = m'.tape) : m.Meets reader writer fate ↔ m'.Meets reader writer fate := by
  have hstart : m.start reader writer = m'.start reader writer := by
    rw [start, start, hprogram, hsetup, htape]
  cases fate with
  | endless => simp only [Meets, hstart]
  | ended result w => simp only [Meets, hstart]

/-- A run ends as the jump machine does. -/
theorem meets_iff_endsFrom (htape : m.tape.Valid) (fits : m.program.width < wordLimit) :
    m.Meets reader writer (.ended result w) ↔
      (JumpMachine.ofProgram m.program m.setup.inputEnd).EndsFrom ⟨0, ⟨m.tape, reader, writer⟩⟩
        result w := by
  have hstart : Agrees m.program m.setup (.running (m.start reader writer))
      (.running ⟨0, ⟨m.tape, reader, writer⟩⟩) :=
    .running (Run.executing_start fits htape reader writer)
  rw [JumpMachine.endsFrom_iff_iterate]
  constructor
  · rintro ⟨rounds, r, hrun, rfl⟩
    exact hstart.walk_ends hrun
  · rintro ⟨steps, hsteps⟩
    exact hstart.jump_ends hsteps

/-- Two runs of which one ends as the other does, told in another way and in another world: then
    that is so of their fates. -/
theorem meets_map_iff (m m' : Machine)
    {tell : Except MachineError Unit → Except MachineError Unit} {change : World → World}
    (htape : m.tape.Valid) (fits : m.program.width < wordLimit) (htape' : m'.tape.Valid)
    (fits' : m'.program.width < wordLimit)
    (h : ∀ result w, m'.Meets reader' writer' (.ended result w) ↔
      ∃ result' w', m.Meets reader writer (.ended result' w') ∧ result = tell result' ∧
        w = change w') (fate : Fate) :
    m'.Meets reader' writer' fate ↔
      ∃ fate', m.Meets reader writer fate' ∧ fate = fate'.map tell change := by
  constructor
  · intro hfate
    cases fate with
    | ended result w =>
        obtain ⟨result', w', hended, rfl, rfl⟩ := (h result w).mp hfate
        exact ⟨.ended result' w', hended, rfl⟩
    | endless =>
        refine ⟨.endless, (meets_endless_iff htape fits).mpr ?_, rfl⟩
        intro result w hended
        have hended' := (h (tell result) (change w)).mpr ⟨result, w, hended, rfl, rfl⟩
        exact (meets_endless_iff htape' fits').mp hfate _ _ hended'
  · rintro ⟨fate', hfate, rfl⟩
    cases fate' with
    | ended result w => exact (h _ _).mpr ⟨result, w, hfate, rfl, rfl⟩
    | endless =>
        refine (meets_endless_iff htape' fits').mpr ?_
        intro result w hended
        obtain ⟨result', w', hended', -⟩ := (h result w).mp hended
        exact (meets_endless_iff htape fits).mp hfate result' w' hended'

/-- A law about how the jump machine ends over two texts, one of them behind another text, is a law
    about what runs over them come to. -/
theorem meets_behind_iff (htape : m.tape.Valid) (hp : p.width < wordLimit)
    (hq : q.width < wordLimit)
    (h : ∀ result w,
      (JumpMachine.ofProgram p m.setup.inputEnd).EndsFrom ⟨0, ⟨m.tape, reader, writer⟩⟩ result w ↔
      ∃ result', (JumpMachine.ofProgram q m.setup.inputEnd).EndsFrom
          ⟨0, ⟨m.tape, reader, writer⟩⟩ result' w ∧
        result = result'.mapError (.behind x)) (fate : Fate) :
    { m with program := p }.Meets reader writer fate ↔
      ∃ fate', { m with program := q }.Meets reader writer fate' ∧ fate = fate'.behind x := by
  have hp' : ∀ result w, { m with program := p }.Meets reader writer (.ended result w) ↔ _ :=
    fun result w => meets_iff_endsFrom htape hp
  have hq' : ∀ result w, { m with program := q }.Meets reader writer (.ended result w) ↔ _ :=
    fun result w => meets_iff_endsFrom htape hq
  simp only [Fate.behind_eq_map]
  refine meets_map_iff { m with program := q } { m with program := p } htape hq htape hp ?_ fate
  intro result w
  simp only [hp', hq', h]
  constructor
  · rintro ⟨result', hends, hresult⟩
    exact ⟨result', w, hends, hresult, rfl⟩
  · rintro ⟨result', w', hends, hresult, rfl⟩
    exact ⟨result', hends, hresult⟩

/-- A change of worlds that no instruction and no flush notices is one of what runs come to. -/
theorem meets_onWorld_iff {change : World → World} (hchange : World.Unnoticed change)
    (hflush : ∀ w, (change w).flushed = (w.flushed.1, change w.flushed.2)) {t : Tape}
    (hstart : change ⟨m.tape, reader, writer⟩ = ⟨t, reader', writer'⟩) (htape : m.tape.Valid)
    (htape' : t.Valid) (fits : m.program.width < wordLimit) (fate : Fate) :
    { m with tape := t }.Meets reader' writer' fate ↔
      ∃ fate', m.Meets reader writer fate' ∧ fate = fate'.map id change := by
  refine meets_map_iff m { m with tape := t } htape fits htape' fits ?_ fate
  intro result w
  have hends' : { m with tape := t }.Meets reader' writer' (.ended result w) ↔
      (JumpMachine.ofProgram m.program m.setup.inputEnd).EndsFrom
        (JumpStage.onWorld change ⟨0, ⟨m.tape, reader, writer⟩⟩) result w := by
    rw [meets_iff_endsFrom (m := { m with tape := t }) htape' fits, JumpStage.onWorld, hstart]
  rw [hends', JumpMachine.endsFrom_onWorld_iff hchange hflush]
  constructor
  · rintro ⟨u, hends, rfl⟩
    exact ⟨result, u, (meets_iff_endsFrom htape fits).mpr hends, rfl, rfl⟩
  · rintro ⟨result', u, hmeets, rfl, rfl⟩
    exact ⟨u, (meets_iff_endsFrom htape fits).mp hmeets, rfl⟩

end Machine

end TextCursor
