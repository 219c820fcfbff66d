import TextCursor.Proofs.IoFailures
import TextCursor.Proofs.OngoingParts

/-! # Transient conditions of input and output

    An interrupted attempt is repeated, and a read that meets the end too soon is one
    that meets the end.  So nothing of a script counts but what is lasting in it:
    `lasting` leaves out its interruptions and tells all ends in the same way.

    Working on what is lasting is a change of worlds that no instruction notices,
    nor the flush.  Hence a run comes to the same over two scripts in which the same
    is lasting, wherever in the scripts the runs then stand (`Machine.Meets.lasting`),
    and on the way it writes the same and reads the same lasting items, for ever if it
    goes on for ever (`Machine.KeepsUpLastingly`); no two runs are followed step by step.

    The last section counts: each `,` that is executed meets the lasting item whose
    number is that of the `,` executed before it, so the end of an input concerns
    one `,` only.

    The final flush is not part of a script.  It is not repeated. -/

namespace TextCursor

/-! ## Scripts -/

namespace Reader

/-- What is lasting in a script: no interruption, and all ends told in the same way. -/
def lasting : List Delivery → List Delivery
  | [] => []
  | .failed .interrupted :: script => lasting script
  | .failed .unexpectedEof :: script => .ended :: lasting script
  | item :: script => item :: lasting script

/-- One script is the other with interruptions put in or left out, and with ends of the input told
    in the other way. -/
inductive Varies : List Delivery → List Delivery → Prop
  | nil : Varies [] []
  | same {script script' : List Delivery} (item : Delivery) (h : Varies script script') :
      Varies (item :: script) (item :: script')
  | putIn {script script' : List Delivery} (h : Varies script script') :
      Varies script (.failed .interrupted :: script')
  | leftOut {script script' : List Delivery} (h : Varies script script') :
      Varies (.failed .interrupted :: script) script'
  | toldAsEnd {script script' : List Delivery} (h : Varies script script') :
      Varies (.failed .unexpectedEof :: script) (.ended :: script')
  | toldAsFailure {script script' : List Delivery} (h : Varies script script') :
      Varies (.ended :: script) (.failed .unexpectedEof :: script')

/-- What a read answers that meets an item of a script, or its end. -/
def answer : Option Delivery → Except IoFailure (Option UInt8)
  | none | some .ended => .ok none
  | some (.byte b) => .ok (some b)
  | some (.failed failure) => .error failure

/-- Scripts that vary only so have the same lasting items. -/
theorem Varies.lasting_eq {script script' : List Delivery} (h : Varies script script') :
    lasting script = lasting script' := by
  induction h with
  | nil => rfl
  | @same script script' item _ ih =>
      cases item with
      | failed failure => cases failure <;> simp [lasting, ih]
      | _ => simp [lasting, ih]
  | putIn _ ih => exact ih
  | leftOut _ ih => exact ih
  | toldAsEnd _ ih => simp [lasting, ih]
  | toldAsFailure _ ih => simp [lasting, ih]

/-- A read answers with the first lasting item, and leaves the others. -/
theorem readFrom_eq (script : List Delivery) : (readFrom script).1 = answer (lasting script).head? ∧
    lasting (readFrom script).2 = (lasting script).tail := by
  induction script with
  | nil => exact ⟨rfl, rfl⟩
  | cons item script ih =>
      cases item with
      | byte b => exact ⟨rfl, rfl⟩
      | ended => exact ⟨rfl, rfl⟩
      | failed failure =>
          cases failure with
          | interrupted => exact ih
          | unexpectedEof => exact ⟨rfl, rfl⟩
          | writeZero => exact ⟨rfl, rfl⟩
          | other message => exact ⟨rfl, rfl⟩

/-- A read of what is lasting is the read of the script. -/
theorem readFrom_lasting (script : List Delivery) :
    readFrom (lasting script) = ((readFrom script).1, lasting (readFrom script).2) := by
  induction script with
  | nil => rfl
  | cons item script ih =>
      cases item with
      | byte b => rfl
      | ended => rfl
      | failed failure =>
          cases failure with
          | interrupted => exact ih
          | unexpectedEof => rfl
          | writeZero => rfl
          | other message => rfl

/-- What is lasting in the end of a script is the end of what is lasting in it. -/
theorem lasting_suffix {script script' : List Delivery} (h : script <:+ script') :
    lasting script <:+ lasting script' := by
  obtain ⟨items, rfl⟩ := h
  induction items with
  | nil => exact List.suffix_refl _
  | cons item items ih =>
      cases item with
      | byte b => exact ih.trans (List.suffix_cons _ _)
      | ended => exact ih.trans (List.suffix_cons _ _)
      | failed failure =>
          cases failure with
          | interrupted => exact ih
          | unexpectedEof => exact ih.trans (List.suffix_cons _ _)
          | writeZero => exact ih.trans (List.suffix_cons _ _)
          | other message => exact ih.trans (List.suffix_cons _ _)

/-- A reader of what is lasting in its script. -/
def onlyLasting (r : Reader) : Reader :=
  ⟨lasting r.script⟩

/-- A read answers as it does when only lasting items count. -/
theorem read_onlyLasting (r : Reader) :
    r.onlyLasting.read = (r.read.1, r.read.2.onlyLasting) := by
  simp only [read, onlyLasting, readFrom_lasting]

end Reader

namespace Writer

/-- What is lasting in a script: no interruption. -/
def lasting : List Acceptance → List Acceptance
  | [] => []
  | .failed .interrupted :: script => lasting script
  | item :: script => item :: lasting script

/-- One script is the other with interruptions put in or left out. -/
inductive Varies : List Acceptance → List Acceptance → Prop
  | nil : Varies [] []
  | same {script script' : List Acceptance} (item : Acceptance) (h : Varies script script') :
      Varies (item :: script) (item :: script')
  | putIn {script script' : List Acceptance} (h : Varies script script') :
      Varies script (.failed .interrupted :: script')
  | leftOut {script script' : List Acceptance} (h : Varies script script') :
      Varies (.failed .interrupted :: script) script'

/-- Scripts that vary only so have the same lasting answers. -/
theorem Varies.lasting_eq {script script' : List Acceptance} (h : Varies script script') :
    lasting script = lasting script' := by
  induction h with
  | nil => rfl
  | @same script script' item _ ih =>
      cases item with
      | failed failure => cases failure <;> simp [lasting, ih]
      | _ => simp [lasting, ih]
  | putIn _ ih => exact ih
  | leftOut _ ih => exact ih

/-- What is lasting in a script answers as the script does. -/
theorem offerTo_lasting (script : List Acceptance) :
    offerTo (lasting script) = ((offerTo script).1, lasting (offerTo script).2) := by
  induction script with
  | nil => rfl
  | cons item script ih =>
      cases item with
      | accepted => rfl
      | refused => rfl
      | failed failure =>
          cases failure with
          | interrupted => exact ih
          | unexpectedEof => rfl
          | writeZero => rfl
          | other message => rfl

/-- A writer with what is lasting in its script. -/
def onlyLasting (w : Writer) : Writer :=
  { w with script := lasting w.script }

/-- No write notices that interruptions are left out. -/
theorem unnoticed_onlyLasting : Unnoticed onlyLasting := by
  rintro ⟨script, flushFailure, accepted, flushes⟩ b
  simp only [onlyLasting, write, offerTo_lasting]
  rcases offerTo script with ⟨⟨⟩ | ⟨⟩, script'⟩ <;> rfl

/-- Nor does a flush. -/
theorem flush_onlyLasting (w : Writer) :
    w.onlyLasting.flush = (w.flush.1, w.flush.2.onlyLasting) := by
  obtain ⟨script, ⟨⟩ | failure, accepted, flushes⟩ := w <;> rfl

end Writer

/-! ## Worlds and fates -/

namespace World

/-- The world with what is lasting in its scripts. -/
def onlyLasting (w : World) : World :=
  ⟨w.tape, w.reader.onlyLasting, w.writer.onlyLasting⟩

/-- No instruction notices that interruptions are left out. -/
theorem unnoticed_onlyLasting : Unnoticed onlyLasting where
  cell_eq := fun _ => rfl
  act_eq := by
    rintro inputEnd instruction ⟨tape, reader, writer⟩
    unfold act
    split
    · rfl
    · rfl
    · rfl
    · rfl
    · have hwrite := Writer.unnoticed_onlyLasting writer tape.cell
      simp only [onlyLasting, hwrite]
      rcases writer.write tape.cell with ⟨⟨⟩ | ⟨⟩, writer'⟩ <;> rfl
    · simp only [onlyLasting, Reader.read_onlyLasting]
      rcases reader.read with ⟨⟨⟩ | ⟨⟩, reader'⟩ <;> rfl
    · rfl

theorem flushed_onlyLasting (w : World) :
    w.onlyLasting.flushed = (w.flushed.1, w.flushed.2.onlyLasting) := by
  simp only [flushed, onlyLasting, Writer.flush_onlyLasting]

/-- What is written and read comes in the same order if only lasting items count. -/
theorem Before.onlyLasting {u v : World} (h : u.Before v) : u.onlyLasting.Before v.onlyLasting :=
  ⟨h.written, Reader.lasting_suffix h.left⟩

end World

/-- Two fates with the same result, tape and pointer, the same output accepted, and the same
    lasting in the input that is left; or two that go on for ever. -/
inductive Fate.Alike : Fate → Fate → Prop
  | ended {result : Except MachineError Unit} {w w' : World} (htape : w.tape = w'.tape)
      (haccepted : w.writer.accepted = w'.writer.accepted)
      (hleft : Reader.lasting w.reader.script = Reader.lasting w'.reader.script) :
      Alike (.ended result w) (.ended result w')
  | endless : Alike .endless .endless

/-- What is the same as far as it is lasting is alike. -/
theorem Fate.alike_of_onlyLasting_eq {fate fate' : Fate}
    (h : fate.map id World.onlyLasting = fate'.map id World.onlyLasting) : fate.Alike fate' := by
  cases fate with
  | endless =>
      cases fate' with
      | endless => exact .endless
      | ended result' w' => exact nomatch h
  | ended result w =>
      cases fate' with
      | endless => exact nomatch h
      | ended result' w' =>
          obtain ⟨hresult, hworld⟩ := Fate.ended.inj h
          obtain rfl : result = result' := hresult
          have haccepted := congrArg (·.writer.accepted) hworld
          have hleft := congrArg (·.reader.script) hworld
          exact .ended (congrArg (·.tape) hworld) haccepted hleft

namespace Machine

variable {m : Machine} {reader reader' : Reader} {writer writer' : Writer} {fate : Fate}

/-- What a run comes to, it comes to over what is lasting in its scripts. -/
theorem Meets.lasting (h : m.Meets reader writer fate) (htape : m.tape.Valid)
    (fits : m.program.width < wordLimit) :
    m.Meets reader.onlyLasting writer.onlyLasting (fate.map id World.onlyLasting) :=
  (meets_onWorld_iff World.unnoticed_onlyLasting World.flushed_onlyLasting rfl htape htape fits
    _).mpr ⟨fate, h, rfl⟩

/-- Over scripts in which the same is lasting, runs come to the same. -/
theorem alike_of_lasting_eq (htape : m.tape.Valid) (fits : m.program.width < wordLimit)
    (hreader : reader.onlyLasting = reader'.onlyLasting)
    (hwriter : writer.onlyLasting = writer'.onlyLasting) {fate' : Fate}
    (h : m.Meets reader writer fate) (h' : m.Meets reader' writer' fate') : fate.Alike fate' := by
  have hlasting := h.lasting htape fits
  rw [hreader, hwriter] at hlasting
  exact Fate.alike_of_onlyLasting_eq (hlasting.unique (h'.lasting htape fits))

/-- Whatever a run over the second reader and writer has written after some rounds, and whatever
    lasting items it has read, the run over the first ones has after some rounds too. -/
def KeepsUpLastingly (m : Machine) (reader reader' : Reader) (writer writer' : Writer) : Prop :=
  ∀ rounds o, (m.start reader' writer').runFor rounds = .ok o →
    ∃ rounds' o', (m.start reader writer).runFor rounds' = .ok o' ∧
      o.run.world.onlyLasting.Before o'.run.world.onlyLasting

/-- Over what is lasting in its scripts a run covers what it covers, as far as that is lasting. -/
theorem covers_onlyLasting_iff (htape : m.tape.Valid) (fits : m.program.width < wordLimit)
    {w : World} : m.Covers reader.onlyLasting writer.onlyLasting w ↔
      ∃ u, m.Covers reader writer u ∧ w.Before u.onlyLasting := by
  simp only [covers_iff_coversFrom htape fits]
  exact JumpMachine.coversFrom_onWorld_iff (s := ⟨0, ⟨m.tape, reader, writer⟩⟩)
    World.unnoticed_onlyLasting World.flushed_onlyLasting fun h => h.onlyLasting

/-- Over scripts in which the same is lasting, runs write the same and read the same that is
    lasting. -/
theorem keepsUp_of_lasting_eq (htape : m.tape.Valid) (fits : m.program.width < wordLimit)
    (hreader : reader.onlyLasting = reader'.onlyLasting)
    (hwriter : writer.onlyLasting = writer'.onlyLasting) :
    m.KeepsUpLastingly reader reader' writer writer' := by
  intro rounds o hrun
  have hlasting : m.Covers reader'.onlyLasting writer'.onlyLasting o.run.world.onlyLasting :=
    (covers_onlyLasting_iff htape fits).mpr ⟨o.run.world, ⟨rounds, o, hrun, .refl _⟩, .refl _⟩
  rw [← hreader, ← hwriter] at hlasting
  obtain ⟨u, ⟨rounds', o', hrun', hbefore⟩, hle⟩ := (covers_onlyLasting_iff htape fits).mp hlasting
  exact ⟨rounds', o', hrun', hle.trans hbefore.onlyLasting⟩

end Machine

/-! ## Which item a `,` meets -/

/-- Only a `,` reads. -/
theorem World.reader_act (w : World) (inputEnd : EndOfInput) (c : Char) :
    (w.act inputEnd c).2.reader = if c = ',' then w.reader.read.2 else w.reader := by
  obtain ⟨tape, reader, writer⟩ := w
  unfold act
  split
  · rfl
  · rfl
  · rfl
  · rfl
  · rcases writer.write tape.cell with ⟨⟨⟩ | ⟨⟩, writer'⟩ <;> rfl
  · rw [if_pos rfl]
    rcases reader.read with ⟨⟨⟩ | ⟨⟩, reader'⟩ <;> rfl
  · rename_i hcomma
    rw [if_neg hcomma]

/-- What a `,` that meets an item makes of the tape, and how it fails if it does. -/
inductive Answered (inputEnd : EndOfInput) (t : Tape) :
    Option Delivery → Option MachineError → Tape → Prop
  | byte (b : UInt8) : Answered inputEnd t (some (.byte b)) none (t.put b)
  | ended : Answered inputEnd t (some .ended) none (World.received inputEnd none t)
  /-- Behind the last item every read meets the end. -/
  | over : Answered inputEnd t none none (World.received inputEnd none t)
  | failed (failure : IoFailure) :
      Answered inputEnd t (some (.failed failure)) (some (.io failure)) t

namespace Answered

variable {inputEnd : EndOfInput} {t : Tape} {item : Option Delivery}

/-- A read that does not fail answers with what its item is. -/
theorem of_ok {answer : Option UInt8} (h : Reader.answer item = .ok answer) :
    Answered inputEnd t item none (World.received inputEnd answer t) := by
  rcases item with _ | b | _ | failure
  · obtain rfl := Except.ok.inj h
    exact .over
  · obtain rfl := Except.ok.inj h
    exact .byte b
  · obtain rfl := Except.ok.inj h
    exact .ended
  · exact nomatch h

/-- A read that fails leaves the tape. -/
theorem of_error {failure : IoFailure} (h : Reader.answer item = .error failure) :
    Answered inputEnd t item (some (.io failure)) t := by
  rcases item with _ | b | _ | failure'
  · exact nomatch h
  · exact nomatch h
  · exact nomatch h
  · obtain rfl := Except.error.inj h
    exact .failed failure'

end Answered

namespace Run

variable {r start : Run} {program front back : Text} {d : Char} {o : Outcome}
  {setup : MachineSetup} {rounds : Nat}

/-- The input is touched by a `,` that is executed, and by no other round. -/
theorem Round.reader_eq (h : Round program front d back r o)
    (hexec : r.executes ',' = (d == ',' && !r.machine.isSkipping)) :
    o.run.reader = if r.executes ',' then r.reader.read.2 else r.reader := by
  have hkeeps : ∀ r' : Run, r'.reader = r.reader → r'.settle.run.reader = r.reader :=
    fun r' h => r'.settle_leaves.2.1.trans h
  have hact : ∀ {failure : Option IoFailure} {w : World}, r.machine.isSkipping = false →
      r.world.act r.machine.setup.inputEnd d = (failure, w) →
      w.reader = if r.executes ',' then r.reader.read.2 else r.reader := by
    intro failure w hskip hact
    have hreader := r.world.reader_act r.machine.setup.inputEnd d
    rw [hact] at hreader
    simpa [hexec, hskip, world] using hreader
  cases h with
  | opened hd h =>
      rw [if_neg (by simp [hexec, hd])]
      exact hkeeps _ rfl
  | stray hd hnil h =>
      rw [if_neg (by simp [hexec, hd])]
      rfl
  | closed hd hloops hskip h =>
      rw [if_neg (by simp [hexec, hd])]
      exact hkeeps _ rfl
  | rewound hd hloops hskip hfront hbody h =>
      rw [if_neg (by simp [hexec, hd])]
      rfl
  | skipped hopen hclose hskip h =>
      rw [if_neg (by simp [hexec, hskip])]
      exact hkeeps _ rfl
  | @acted w hopen hclose hskip hacted h =>
      exact (r.acted d w).settle_leaves.2.1.trans (hact hskip hacted)
  | failed hopen hclose hskip hacted h => exact hact hskip hacted

/-- As long as a run goes on, it has taken a lasting item for each `,` that it has executed. -/
theorem lasting_eq_drop (hstart : start.Intact program setup)
    (hrun : start.runFor rounds = .ok (.running r)) :
    Reader.lasting r.reader.script =
      (Reader.lasting start.reader.script).drop (start.executions ',' rounds) := by
  induction rounds generalizing r with
  | zero =>
      obtain rfl := Outcome.running.inj (Except.ok.inj hrun)
      rfl
  | succ rounds ih =>
      obtain ⟨s, hprevious, hround⟩ := exists_of_runFor_succ hrun
      have hintact : s.Intact program setup := hstart.of_runFor hprevious
      obtain ⟨front, back, hready⟩ := hintact.ready
      cases back with
      | nil =>
          -- a run that stands at the end of its program does not go on
          have hend := hready.round_end
          rw [settle_end hready.between, hround] at hend
          exact nomatch Except.ok.inj hend
      | cons d back =>
          obtain ⟨o, hok, hcase⟩ := Run.round_ok hready
          obtain rfl := Except.ok.inj (hround.symm.trans hok)
          have hreader : r.reader = _ := hcase.reader_eq (hready.executes_eq ',')
          have hread : Reader.lasting s.reader.read.2.script = _ :=
            (Reader.readFrom_eq s.reader.script).2
          rw [executions_succ, executesAt, hprevious, ← List.drop_drop, ← ih hprevious, hreader]
          cases hcomma : s.executes ',' with
          | true => simpa [hcomma] using hread
          | false => simp [hcomma]

/-- The reads of a run in their turn: a `,` that is executed meets the lasting item of its number,
    and the output is not touched. -/
def ReadsInTurn (start : Run) : Prop :=
  ∀ rounds r, start.runFor rounds = .ok (.running r) → r.executes ',' = true →
    ∃ failure, ∃ r' : Run, r.round = .ok (r'.conclude failure) ∧ r'.writer = r.writer ∧
      Answered r.machine.setup.inputEnd r.machine.tape
        (Reader.lasting start.reader.script)[start.executions ',' rounds]? failure r'.machine.tape

/-- **Reads come in their turn**: every `,` meets the lasting item of its number. -/
theorem readsInTurn (hstart : start.Intact program setup) : start.ReadsInTurn := by
  intro rounds r hrun hcomma
  have hintact : r.Intact program setup := hstart.of_runFor hrun
  obtain ⟨front, back, hready, hskip⟩ := hintact.ready_of_executes hcomma
  rw [← List.head?_drop, ← lasting_eq_drop hstart hrun]
  have hanswer := (Reader.readFrom_eq r.reader.script).1
  rcases hread : r.world.reader.read with ⟨failure | answer, reader⟩
  · have hact : r.world.act r.machine.setup.inputEnd ','
        = (some failure, { r.world with reader := reader }) := by
      simp only [World.act, hread]
    refine ⟨some (.io failure), _, hready.round_fail (by decide) (by decide) hskip hact, rfl, ?_⟩
    exact .of_error (hanswer.symm.trans (congrArg Prod.fst hread))
  · have hact : r.world.act r.machine.setup.inputEnd ','
        = (none, { r.world with
            tape := World.received r.machine.setup.inputEnd answer r.world.tape
            reader := reader }) := by
      simp only [World.act, hread]
    refine ⟨none, _, hready.round_act (by decide) (by decide) hskip hact, rfl, ?_⟩
    exact .of_ok (hanswer.symm.trans (congrArg Prod.fst hread))

end Run

namespace Machine

variable {m : Machine} {reader reader' : Reader} {answers answers' : List Acceptance}

/-- **Transient conditions are invisible**: a run comes to the same whatever interruptions are put
    into its scripts or left out of them, and however the ends of its input are told.  Whether or
    not the two runs end, each of them comes to write whatever the other one does, and to read it
    but for what is transient; and each `,` that is executed meets the next lasting item of the
    input, whatever the one before has met. -/
theorem transient_io_is_invisible (fits : m.program.width < wordLimit) (htape : m.tape.Valid)
    (hreader : Reader.Varies reader.script reader'.script)
    (hanswers : Writer.Varies answers answers') (flushFailure : Option IoFailure) :
    (∃ fate fate',
      (∀ other, m.Meets reader (.ofScript answers flushFailure) other ↔ other = fate) ∧
      (∀ other, m.Meets reader' (.ofScript answers' flushFailure) other ↔ other = fate') ∧
      fate.Alike fate') ∧
    m.KeepsUpLastingly reader reader' (.ofScript answers flushFailure)
      (.ofScript answers' flushFailure) ∧
    m.KeepsUpLastingly reader' reader (.ofScript answers' flushFailure)
      (.ofScript answers flushFailure) ∧
    (m.start reader (.ofScript answers flushFailure)).ReadsInTurn := by
  have hlasting : reader.onlyLasting = reader'.onlyLasting :=
    congrArg Reader.mk hreader.lasting_eq
  have hlasting' : (Writer.ofScript answers flushFailure).onlyLasting =
      (Writer.ofScript answers' flushFailure).onlyLasting := by
    simp only [Writer.onlyLasting, Writer.ofScript, hanswers.lasting_eq]
  obtain ⟨fate, h, -⟩ := existsUnique_meets htape fits reader (.ofScript answers flushFailure)
  obtain ⟨fate', h', -⟩ := existsUnique_meets htape fits reader' (.ofScript answers' flushFailure)
  refine ⟨⟨fate, fate', h.iff_eq, h'.iff_eq, ?_⟩, ?_, ?_, ?_⟩
  · exact alike_of_lasting_eq htape fits hlasting hlasting' h h'
  · exact keepsUp_of_lasting_eq htape fits hlasting hlasting'
  · exact keepsUp_of_lasting_eq htape fits hlasting.symm hlasting'.symm
  · exact Run.readsInTurn (Run.intact_start htape fits reader _)

/-- Two reads, of which the first meets the end, with interruptions before both of them and before
    the byte that is written. -/
theorem transient_io_is_invisible_on_two_reads :
    Text.width [',', '.', ','] < wordLimit ∧ Tape.Valid ⟨#[7], 0⟩ ∧
      Reader.Varies [.failed .unexpectedEof, .byte 65]
        [.failed .interrupted, .ended, .failed .interrupted, .byte 65] ∧
      Writer.Varies [.refused] [.failed .interrupted, .refused] ∧
      ∃ m : Machine, m = ⟨[',', '.', ','], MachineSetup.standard, ⟨#[7], 0⟩, []⟩ ∧
        ∃ fate fate', m.Meets ⟨[.failed .unexpectedEof, .byte 65]⟩
            (.ofScript [.refused] none) fate ∧
          m.Meets ⟨[.failed .interrupted, .ended, .failed .interrupted, .byte 65]⟩
            (.ofScript [.failed .interrupted, .refused] none) fate' ∧
          fate.Alike fate' := by
  have fits : Text.width [',', '.', ','] < wordLimit := by decide
  have htape : Tape.Valid ⟨#[7], 0⟩ := ⟨by decide, by decide⟩
  let m : Machine := ⟨[',', '.', ','], MachineSetup.standard, ⟨#[7], 0⟩, []⟩
  let reader : Reader := ⟨[.failed .unexpectedEof, .byte 65]⟩
  let reader' : Reader := ⟨[.failed .interrupted, .ended, .failed .interrupted, .byte 65]⟩
  have hreader : Reader.Varies reader.script reader'.script :=
    .putIn (.toldAsEnd (.putIn (.same _ .nil)))
  have hanswers : Writer.Varies [.refused] [.failed .interrupted, .refused] :=
    .putIn (.same _ .nil)
  obtain ⟨⟨fate, fate', hmeets, hmeets', halike⟩, -⟩ :=
    transient_io_is_invisible (m := m) fits htape hreader hanswers none
  exact ⟨fits, htape, hreader, hanswers, m, rfl, fate, fate', (hmeets fate).mpr rfl,
    (hmeets' fate').mpr rfl, halike⟩

end Machine

end TextCursor
