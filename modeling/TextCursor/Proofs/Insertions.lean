import TextCursor.Proofs.OngoingRuns

/-! # A text put into a program

    A text without brackets that is put into a program, anywhere, moves the brackets
    behind it and pairs them as before: the table of the pairs is the old one with all
    indices moved (`Text.pairs_putIn`).  So the jump machine makes the same jumps, to
    the indices moved.

    What it does inside of the new text depends on the text.  If that leads from each
    world in question back to the same world, `Inert`, then the machine with it does
    what the machine without it does, with some steps more: whenever the one comes to
    the seam, the other goes through the new text first.  `Beside` puts their stages
    next to each other.  A stage inside of the new text is beside the seam, so a step
    there is matched by none, and `step_beside` matches all others one by one.

    From that either machine is followed step by step, `GoesBeside.iterate_with` and
    `GoesBeside.iterate_without`.  The first of them lands beside the other machine, the
    second one exactly where it is, with the indices moved. -/

namespace TextCursor

/-! ## Indices -/

namespace Text

/-- Where an index of a text is when another text of some length is put in at a seam. -/
def moved (seam length index : Nat) : Nat :=
  if index < seam then index else index + length

theorem moved_of_lt {seam length index : Nat} (h : index < seam) :
    moved seam length index = index :=
  if_pos h

theorem moved_of_le {seam length index : Nat} (h : seam ≤ index) :
    moved seam length index = index + length :=
  if_neg (Nat.not_lt.mpr h)

theorem moved_injective (seam length : Nat) : Function.Injective (moved seam length) := by
  intro i j h
  simp only [moved] at h
  split at h <;> split at h <;> omega

/-- A text without brackets. -/
def Plain (d : Text) : Prop :=
  ∀ c ∈ d, c ≠ '[' ∧ c ≠ ']'

variable {p d q : Text} {index : Nat} {opened : List Nat}

/-! ## The table of pairs -/

/-- The pass reads a text without brackets and finds nothing. -/
theorem pairsFrom_plain (hd : d.Plain) (index : Nat) (opened : List Nat) (q : Text) :
    pairsFrom index opened (d ++ q) = pairsFrom (index + d.length) opened q := by
  induction d generalizing index with
  | nil => rfl
  | cons c d ih =>
      obtain ⟨hopen, hclose⟩ := hd c List.mem_cons_self
      have hrest : Plain d := fun c' hc' => hd c' (List.mem_cons_of_mem c hc')
      rw [List.cons_append, pairsFrom, if_neg hopen, if_neg hclose, ih hrest, List.length_cons]
      congr 1
      omega

/-- The pass over the same text from a later index finds the same pairs, moved. -/
theorem pairsFrom_later {length : Nat} {move : Nat → Nat} (q : Text) :
    ∀ {index : Nat} {opened : List Nat}, (∀ i, index ≤ i → move i = i + length) →
      pairsFrom (index + length) (opened.map move) q
        = (pairsFrom index opened q).map (Prod.map move move) := by
  induction q with
  | nil => exact fun _ => rfl
  | cons c q ih =>
      intro index opened hmove
      have hhere : index + length = move index := (hmove index (Nat.le_refl _)).symm
      have hnext : index + length + 1 = index + 1 + length := by omega
      have hlater : ∀ i, index + 1 ≤ i → move i = i + length :=
        fun i hi => hmove i (Nat.le_of_succ_le hi)
      rw [pairsFrom, pairsFrom, hnext]
      by_cases hopen : c = '['
      · rw [if_pos hopen, if_pos hopen, hhere, ← List.map_cons]
        exact ih hlater
      rw [if_neg hopen, if_neg hopen]
      by_cases hclose : c = ']'
      · rw [if_pos hclose, if_pos hclose, ← List.map_tail, ih hlater, hhere, List.map_append]
        congr 1
        cases opened <;> rfl
      · rw [if_neg hclose, if_neg hclose]
        exact ih hlater

/-- The pass over a text finds the same pairs when a text without brackets is put into it, moved
    where they are behind the seam. -/
theorem pairsFrom_putIn (hd : d.Plain) (q : Text) {move : Nat → Nat} (p : Text) :
    ∀ {index : Nat} {opened : List Nat}, (∀ i < index + p.length, move i = i) →
      (∀ i, index + p.length ≤ i → move i = i + d.length) →
      pairsFrom index (opened.map move) (p ++ (d ++ q))
        = (pairsFrom index opened (p ++ q)).map (Prod.map move move) := by
  induction p with
  | nil =>
      intro index opened _ hbehind
      rw [List.nil_append, List.nil_append, pairsFrom_plain hd]
      exact pairsFrom_later q hbehind
  | cons c p ih =>
      intro index opened hbefore hbehind
      have hlength : index + (c :: p).length = index + 1 + p.length := by
        rw [List.length_cons]
        omega
      rw [hlength] at hbefore hbehind
      have hhere : move index = index := hbefore index (by omega)
      rw [List.cons_append, List.cons_append, pairsFrom, pairsFrom]
      by_cases hopen : c = '['
      · rw [if_pos hopen, if_pos hopen]
        have hopened : index :: opened.map move = (index :: opened).map move := by
          rw [List.map_cons, hhere]
        rw [hopened]
        exact ih hbefore hbehind
      rw [if_neg hopen, if_neg hopen]
      by_cases hclose : c = ']'
      · rw [if_pos hclose, if_pos hclose, ← List.map_tail, ih hbefore hbehind, List.map_append]
        congr 1
        cases opened with
        | nil => rfl
        | cons start opened =>
            show [(move start, index)] = [(move start, move index)]
            rw [hhere]
      · rw [if_neg hclose, if_neg hclose]
        exact ih hbefore hbehind

/-- **The same pairs**: a text without brackets, put into another one, moves its pairs of brackets
    and makes no other change. -/
theorem pairs_putIn (hd : d.Plain) (p q : Text) :
    pairs (p ++ (d ++ q)) = (pairs (p ++ q)).map
      (Prod.map (moved p.length d.length) (moved p.length d.length)) := by
  have hmoved : pairsFrom 0 ([].map (moved p.length d.length)) (p ++ (d ++ q)) = _ :=
    pairsFrom_putIn hd q p (fun i hi => moved_of_lt (by omega)) (fun i hi => moved_of_le (by omega))
  exact hmoved

example : pairs ['[', '+', '-', ']']
    = (pairs ['[', ']']).map (Prod.map (moved 1 2) (moved 1 2)) := by
  decide

/-- A key is looked up in a table moved as it is in the table. -/
theorem map_find?_map {move : Nat → Nat} (hmove : Function.Injective move)
    (key value : Nat × Nat → Nat) (table : List (Nat × Nat))
    (hkey : ∀ pair, key (Prod.map move move pair) = move (key pair))
    (hvalue : ∀ pair, value (Prod.map move move pair) = move (value pair)) (index : Nat) :
    ((table.map (Prod.map move move)).find? (key · == move index)).map value
      = ((table.find? (key · == index)).map value).map move := by
  have hsame : (fun pair => key pair == move index) ∘ Prod.map move move
      = fun pair => key pair == index := by
    funext pair
    rw [Function.comp_apply, hkey, Bool.eq_iff_iff, beq_iff_eq, beq_iff_eq, hmove.eq_iff]
  rw [List.find?_map, hsame, Option.map_map, Option.map_map]
  congr 1
  funext pair
  exact hvalue pair

/-- Each place of a text is one of the text with another one put in, moved, and so is its offset. -/
theorem exists_place_moved {front back : Text} {c : Char} (h : p ++ q = front ++ c :: back) :
    ∃ front' back', p ++ (d ++ q) = front' ++ c :: back' ∧
      front'.length = moved p.length d.length front.length ∧
      front'.width = moved p.width d.width front.width := by
  rcases List.append_eq_append_iff.mp h with ⟨u, rfl, rfl⟩ | ⟨u, rfl, hu⟩
  · -- the place is behind the seam
    refine ⟨p ++ (d ++ u), back, by simp, ?_, ?_⟩
    · rw [moved_of_le (by simp)]
      simp only [List.length_append]
      omega
    · rw [moved_of_le (by simp)]
      simp only [width_append]
      omega
  · cases u with
    | nil =>
        -- the place is the first one behind the seam
        obtain rfl : q = c :: back := hu.symm
        refine ⟨front ++ d, back, by simp, ?_, ?_⟩
        · rw [moved_of_le (by simp), List.length_append]
        · rw [moved_of_le (by simp), width_append]
    | cons c' u =>
        obtain ⟨rfl, rfl⟩ := List.cons.inj hu
        refine ⟨front, u ++ (d ++ q), by simp, ?_, ?_⟩
        · rw [moved_of_lt (by simp)]
        · have hsize := c.utf8Size_pos
          rw [moved_of_lt (by simp; omega)]

end Text

/-- An error as a program reports it into which a text is put at a seam. -/
def MachineError.putIn (p d : Text) : MachineError → MachineError
  | .unmatchedLoopEnd offset => .unmatchedLoopEnd (Text.moved p.width d.width offset)
  | .io failure => .io failure

/-- What goes on or has ended, as it does when a text is put into the program at a seam. -/
def JumpProgress.putIn (p d : Text) : JumpProgress → JumpProgress :=
  JumpProgress.map (fun s => ⟨Text.moved p.length d.length s.index, s.world⟩)
    (Except.mapError (.putIn p d)) id

/-- The world is as it was without the text. -/
theorem JumpProgress.world_putIn (p d : Text) (o : JumpProgress) :
    (o.putIn p d).world = o.world := by
  cases o <;> rfl

/-! ## Texts that lead from world to world -/

namespace World

/-- The instructions of a text lead from one world to another, and none of them fails. -/
inductive Walks (inputEnd : EndOfInput) : Text → World → World → Prop
  | nil (w : World) : Walks inputEnd [] w w
  | cons {c : Char} {d : Text} {u v w : World} (hact : u.act inputEnd c = (none, v))
      (h : Walks inputEnd d v w) : Walks inputEnd (c :: d) u w

/-- What the instructions of a text write and read comes on top. -/
theorem Walks.before {inputEnd : EndOfInput} {d : Text} {u w : World}
    (h : Walks inputEnd d u w) : u.Before w := by
  induction h with
  | nil w => exact .refl w
  | @cons c d u v w hact _ ih =>
      have hfirst := u.before_act inputEnd c
      rw [hact] at hfirst
      exact hfirst.trans ih

end World

/-- A text that leads from each world in question back to it, wherever it stands in a program. -/
structure Inert (inputEnd : EndOfInput) (P : World → Prop) (d : Text) : Prop where
  plain : d.Plain
  walks : ∀ w, P w → World.Walks inputEnd d w w
  /-- No instruction leads to a world that is not in question. -/
  keeps : ∀ c w, P w → P (w.act inputEnd c).2

namespace JumpMachine

variable {inputEnd : EndOfInput} {P : World → Prop} {p d q done left : Text} {c : Char}
  {u w w' : World} {s t : JumpStage} {result : Except MachineError Unit} {index : Nat}

/-! ## Jumps -/

/-- The jumps of the program with the text put in are those of the program, moved. -/
theorem closing?_putIn (hd : d.Plain) (p q : Text) (index : Nat) :
    (ofProgram (p ++ (d ++ q)) inputEnd).closing? (Text.moved p.length d.length index)
      = ((ofProgram (p ++ q) inputEnd).closing? index).map (Text.moved p.length d.length) := by
  show ((Text.pairs (p ++ (d ++ q))).find? _).map _ = _
  rw [Text.pairs_putIn hd]
  exact Text.map_find?_map (Text.moved_injective _ _) Prod.fst Prod.snd _ (fun _ => rfl)
    (fun _ => rfl) index

theorem opening?_putIn (hd : d.Plain) (p q : Text) (index : Nat) :
    (ofProgram (p ++ (d ++ q)) inputEnd).opening? (Text.moved p.length d.length index)
      = ((ofProgram (p ++ q) inputEnd).opening? index).map (Text.moved p.length d.length) := by
  show ((Text.pairs (p ++ (d ++ q))).find? _).map _ = _
  rw [Text.pairs_putIn hd]
  exact Text.map_find?_map (Text.moved_injective _ _) Prod.snd Prod.fst _ (fun _ => rfl)
    (fun _ => rfl) index

/-! ## Stages -/

/-- A stage of the machine with a text put in, and one of the machine without it: both before the
    same character, or the first one inside of the text and the second one at the seam, where the
    rest of the text leads to. -/
inductive Beside (inputEnd : EndOfInput) (P : World → Prop) (p d : Text) :
    JumpStage → JumpStage → Prop
  | outside (index : Nat) {w : World} (hw : P w) :
      Beside inputEnd P p d ⟨Text.moved p.length d.length index, w⟩ ⟨index, w⟩
  | inside {done left : Text} {c : Char} {u w : World} (hd : d = done ++ c :: left) (hw : P w)
      (h : World.Walks inputEnd (c :: left) u w) :
      Beside inputEnd P p d ⟨p.length + done.length, u⟩ ⟨p.length, w⟩

/-- What goes on or has ended with a text put in, and without it. -/
inductive GoesBeside (inputEnd : EndOfInput) (P : World → Prop) (p d : Text) :
    JumpProgress → JumpProgress → Prop
  | running {s t : JumpStage} (h : Beside inputEnd P p d s t) :
      GoesBeside inputEnd P p d (.running s) (.running t)
  | finished (result : Except MachineError Unit) (w : World) :
      GoesBeside inputEnd P p d (.finished (result.mapError (.putIn p d)) w) (.finished result w)

/-- What is left of the text leads to the seam. -/
theorem beside_of_walks (hd : d = done ++ left) (hw : P w)
    (h : World.Walks inputEnd left u w) :
    Beside inputEnd P p d ⟨p.length + done.length, u⟩ ⟨p.length, w⟩ := by
  cases h with
  | nil =>
      obtain rfl : d = done := by rw [hd, List.append_nil]
      have houtside : Beside inputEnd P p d ⟨Text.moved p.length d.length p.length, u⟩
        ⟨p.length, u⟩ := .outside p.length hw
      rwa [Text.moved_of_le (Nat.le_refl _)] at houtside
  | cons hact hrest => exact .inside hd hw (.cons hact hrest)

/-- At the seam the whole of the text leads there. -/
theorem beside_seam (hd : Inert inputEnd P d) (p : Text) (hw : P w) :
    Beside inputEnd P p d ⟨p.length, w⟩ ⟨p.length, w⟩ :=
  beside_of_walks (List.nil_append d).symm hw (hd.walks w hw)

/-- Behind a character that both machines have passed they stand beside each other, also where the
    new text comes next. -/
theorem beside_succ (hd : Inert inputEnd P d) (hw : P w) (index : Nat) :
    Beside inputEnd P p d ⟨Text.moved p.length d.length index + 1, w⟩ ⟨index + 1, w⟩ := by
  rcases Nat.lt_trichotomy (index + 1) p.length with hlt | heq | hgt
  · have houtside : Beside inputEnd P p d ⟨Text.moved p.length d.length (index + 1), w⟩
      ⟨index + 1, w⟩ := .outside (index + 1) hw
    rw [Text.moved_of_lt hlt] at houtside
    rwa [Text.moved_of_lt (Nat.lt_of_succ_lt hlt)]
  · rw [Text.moved_of_lt (by omega), heq]
    exact beside_seam hd p hw
  · have hnext : Text.moved p.length d.length index + 1
        = Text.moved p.length d.length (index + 1) := by
      rw [Text.moved_of_le (by omega), Text.moved_of_le (by omega)]
      omega
    rw [hnext]
    exact .outside (index + 1) hw

/-- A step inside of the text. -/
theorem step_inside (hplain : d.Plain) (hd : d = done ++ c :: left)
    (hact : u.act inputEnd c = (none, w)) :
    (ofProgram (p ++ (d ++ q)) inputEnd).step ⟨p.length + done.length, u⟩
      = .running ⟨p.length + (done ++ [c]).length, w⟩ := by
  obtain ⟨hopen, hclose⟩ := hplain c (by rw [hd]; simp)
  have hprogram : (ofProgram (p ++ (d ++ q)) inputEnd).program
      = (p ++ done) ++ c :: (left ++ q) := by
    show p ++ (d ++ q) = _
    rw [hd]
    simp
  have hact' : u.act (ofProgram (p ++ (d ++ q)) inputEnd).inputEnd c = (none, w) := hact
  have hindex : p.length + (done ++ [c]).length = (p ++ done).length + 1 := by
    rw [List.length_append, List.length_append]
    rfl
  rw [← List.length_append, step_plain hprogram hopen hclose, hact', hindex]

/-- Through what is left of the text the machine comes to its end. -/
theorem exists_through (hplain : d.Plain) (h : World.Walks inputEnd left u w) :
    ∀ {done : Text}, d = done ++ left → ∃ steps,
      (ofProgram (p ++ (d ++ q)) inputEnd).next^[steps] (.running ⟨p.length + done.length, u⟩)
        = .running ⟨p.length + d.length, w⟩ := by
  induction h with
  | nil w =>
      intro done hd
      refine ⟨0, ?_⟩
      rw [hd, List.append_nil]
      rfl
  | @cons c left u v w hact _ ih =>
      intro done hd
      have hnext : d = (done ++ [c]) ++ left := hd.trans (List.append_cons done c left)
      obtain ⟨steps, hsteps⟩ := ih hnext
      refine ⟨steps + 1, ?_⟩
      rw [Function.iterate_succ_apply]
      show (ofProgram (p ++ (d ++ q)) inputEnd).next^[steps]
        ((ofProgram (p ++ (d ++ q)) inputEnd).step ⟨p.length + done.length, u⟩) = _
      rw [step_inside hplain hd hact, hsteps]

/-! ## Steps -/

/-- A `[` is jumped over, jumped out of, or entered by both. -/
theorem step_beside_open (hd : Inert inputEnd P d) (hw : P w) {front back front' back' : Text}
    (hq : p ++ q = front ++ '[' :: back) (hp : p ++ (d ++ q) = front' ++ '[' :: back')
    (hlength : front'.length = Text.moved p.length d.length front.length) :
    GoesBeside inputEnd P p d ((ofProgram (p ++ (d ++ q)) inputEnd).step ⟨front'.length, w⟩)
      ((ofProgram (p ++ q) inputEnd).step ⟨front.length, w⟩) := by
  by_cases hzero : w.tape.cell = 0
  · rw [step_jump hp hzero, step_jump hq hzero, hlength, afterLoop, afterLoop,
      closing?_putIn hd.plain]
    cases (ofProgram (p ++ q) inputEnd).closing? front.length with
    | some stop => exact .running (beside_succ hd hw stop)
    | none =>
        have hends : (p ++ (d ++ q)).length = Text.moved p.length d.length (p ++ q).length := by
          rw [Text.moved_of_le (by simp)]
          simp only [List.length_append]
          omega
        show GoesBeside _ _ _ _ (.running ⟨(p ++ (d ++ q)).length, w⟩)
          (.running ⟨(p ++ q).length, w⟩)
        rw [hends]
        exact .running (.outside _ hw)
  · rw [step_enter hp hzero, step_enter hq hzero, hlength]
    exact .running (beside_succ hd hw front.length)

/-- A `]` is followed back by both, or has no `[` in either program. -/
theorem step_beside_close (hd : Inert inputEnd P d) (hw : P w) {front back front' back' : Text}
    (hq : p ++ q = front ++ ']' :: back) (hp : p ++ (d ++ q) = front' ++ ']' :: back')
    (hlength : front'.length = Text.moved p.length d.length front.length)
    (hwidth : front'.width = Text.moved p.width d.width front.width) :
    GoesBeside inputEnd P p d ((ofProgram (p ++ (d ++ q)) inputEnd).step ⟨front'.length, w⟩)
      ((ofProgram (p ++ q) inputEnd).step ⟨front.length, w⟩) := by
  have hopening : (ofProgram (p ++ (d ++ q)) inputEnd).opening? _ = _ :=
    opening?_putIn hd.plain p q front.length
  rw [← hlength] at hopening
  cases hfound : (ofProgram (p ++ q) inputEnd).opening? front.length with
  | some start =>
      rw [hfound] at hopening
      rw [step_back hp hopening, step_back hq hfound]
      exact .running (.outside start hw)
  | none =>
      rw [hfound] at hopening
      rw [step_stray hp hopening, step_stray hq hfound, hwidth]
      exact .finished (.error (.unmatchedLoopEnd front.width)) w

/-- **One step of both**: before the same character the two machines do the same, and stand beside
    each other again. -/
theorem step_beside (hd : Inert inputEnd P d) (p q : Text) (index : Nat) (hw : P w) :
    GoesBeside inputEnd P p d
      ((ofProgram (p ++ (d ++ q)) inputEnd).step ⟨Text.moved p.length d.length index, w⟩)
      ((ofProgram (p ++ q) inputEnd).step ⟨index, w⟩) := by
  rcases Nat.lt_or_ge index (p ++ q).length with hi | hi
  · obtain ⟨front, c, back, hq, rfl⟩ := exists_place hi
    obtain ⟨front', back', hp, hlength, hwidth⟩ := Text.exists_place_moved (d := d) hq
    rw [← hlength]
    by_cases hopen : c = '['
    · subst hopen
      exact step_beside_open hd hw hq hp hlength
    by_cases hclose : c = ']'
    · subst hclose
      exact step_beside_close hd hw hq hp hlength hwidth
    · have hinput : ∀ program, (ofProgram program inputEnd).inputEnd = inputEnd := fun _ => rfl
      have hkept := hd.keeps c w hw
      rw [step_plain hp hopen hclose, step_plain hq hopen hclose, hinput, hinput, hlength]
      rcases hact : w.act inputEnd c with ⟨_ | failure, w'⟩
      · rw [hact] at hkept
        exact .running (beside_succ hd hkept front.length)
      · exact .finished (.error (.io failure)) w'
  · have hends : (p ++ (d ++ q)).length ≤ Text.moved p.length d.length index := by
      rw [List.length_append] at hi
      rw [Text.moved_of_le (by omega)]
      simp only [List.length_append]
      omega
    have hflush : w.flushed.1.mapError (MachineError.putIn p d) = w.flushed.1 := by
      show ((w.writer.flush.1).mapError _).mapError _ = (w.writer.flush.1).mapError _
      cases w.writer.flush.1 <;> rfl
    have hfinished : GoesBeside inputEnd P p d
        (.finished (w.flushed.1.mapError (.putIn p d)) w.flushed.2)
        (.finished w.flushed.1 w.flushed.2) := .finished w.flushed.1 w.flushed.2
    rw [hflush] at hfinished
    rwa [step_of_length_le hi, step_of_length_le hends]

/-! ## Runs of the machine -/

theorem Beside.world (h : Beside inputEnd P p d s t) : P t.world := by
  cases h with
  | outside index hw => exact hw
  | inside hsplit hw hwalks => exact hw

namespace GoesBeside

/-- The machine with the text put in comes to where the one without it is. -/
theorem exists_settled (hd : Inert inputEnd P d) {o o' : JumpProgress}
    (h : GoesBeside inputEnd P p d o o') :
    ∃ steps, (ofProgram (p ++ (d ++ q)) inputEnd).next^[steps] o = o'.putIn p d := by
  cases h with
  | finished result w => exact ⟨0, rfl⟩
  | running h =>
      cases h with
      | outside index hw => exact ⟨0, rfl⟩
      | inside hsplit hw hwalks =>
          obtain ⟨steps, hsteps⟩ := exists_through (p := p) (q := q) hd.plain hwalks hsplit
          refine ⟨steps, ?_⟩
          rw [hsteps, JumpProgress.putIn, JumpProgress.map, Text.moved_of_le (Nat.le_refl _)]

/-- A step with the text put in is matched by one without it or by none. -/
theorem next_with (hd : Inert inputEnd P d) {o o' : JumpProgress}
    (h : GoesBeside inputEnd P p d o o') :
    ∃ steps, GoesBeside inputEnd P p d ((ofProgram (p ++ (d ++ q)) inputEnd).next o)
      ((ofProgram (p ++ q) inputEnd).next^[steps] o') := by
  cases h with
  | finished result w => exact ⟨0, .finished result w⟩
  | running h =>
      cases h with
      | outside index hw => exact ⟨1, step_beside hd p q index hw⟩
      | @inside done left c u w hsplit hw hwalks =>
          -- the machine without the text waits at the seam
          cases hwalks with
          | cons hact hrest =>
              have hnext : d = (done ++ [c]) ++ left := hsplit.trans (List.append_cons done c left)
              have hstep : (ofProgram (p ++ (d ++ q)) inputEnd).next
                  (.running ⟨p.length + done.length, u⟩) = _ := step_inside hd.plain hsplit hact
              refine ⟨0, ?_⟩
              rw [hstep]
              exact .running (beside_of_walks hnext hw hrest)

/-- A step without the text is matched by some with it put in. -/
theorem next_without (hd : Inert inputEnd P d) {o o' : JumpProgress}
    (h : GoesBeside inputEnd P p d o o') :
    ∃ steps, GoesBeside inputEnd P p d
      ((ofProgram (p ++ (d ++ q)) inputEnd).next^[steps] o)
      ((ofProgram (p ++ q) inputEnd).next o') := by
  obtain ⟨steps, hsteps⟩ := h.exists_settled (q := q) hd
  cases h with
  | finished result w => exact ⟨0, .finished result w⟩
  | @running s t h =>
      refine ⟨steps + 1, ?_⟩
      rw [Function.iterate_succ_apply', hsteps]
      exact step_beside hd p q t.index h.world

/-- However many steps the machine with the text makes, it is beside the one without it. -/
theorem iterate_with (hd : Inert inputEnd P d) {o o' : JumpProgress}
    (h : GoesBeside inputEnd P p d o o') (n : Nat) :
    ∃ steps, GoesBeside inputEnd P p d ((ofProgram (p ++ (d ++ q)) inputEnd).next^[n] o)
      ((ofProgram (p ++ q) inputEnd).next^[steps] o') := by
  induction n with
  | zero => exact ⟨0, h⟩
  | succ n ih =>
      obtain ⟨steps, hbeside⟩ := ih
      obtain ⟨more, hmore⟩ := hbeside.next_with (q := q) hd
      refine ⟨more + steps, ?_⟩
      rw [Function.iterate_succ_apply', Function.iterate_add_apply]
      exact hmore

/-- However many steps the machine without the text makes, the one with it comes to the same. -/
theorem iterate_without (hd : Inert inputEnd P d) {o o' : JumpProgress}
    (h : GoesBeside inputEnd P p d o o') (n : Nat) :
    ∃ steps, (ofProgram (p ++ (d ++ q)) inputEnd).next^[steps] o
      = ((ofProgram (p ++ q) inputEnd).next^[n] o').putIn p d := by
  have hbeside : ∃ steps, GoesBeside inputEnd P p d
      ((ofProgram (p ++ (d ++ q)) inputEnd).next^[steps] o)
      ((ofProgram (p ++ q) inputEnd).next^[n] o') := by
    induction n with
    | zero => exact ⟨0, h⟩
    | succ n ih =>
        obtain ⟨steps, hbeside⟩ := ih
        obtain ⟨more, hmore⟩ := hbeside.next_without (q := q) hd
        refine ⟨more + steps, ?_⟩
        rw [Function.iterate_succ_apply', Function.iterate_add_apply]
        exact hmore
  obtain ⟨steps, hbeside⟩ := hbeside
  obtain ⟨more, hmore⟩ := hbeside.exists_settled (q := q) hd
  refine ⟨more + steps, ?_⟩
  rw [Function.iterate_add_apply, hmore]

/-- The machine with the text put in has written and read no more than the one without it. -/
theorem before {o o' : JumpProgress} (h : GoesBeside inputEnd P p d o o') :
    o.world.Before o'.world := by
  cases h with
  | finished result w => exact .refl w
  | running h =>
      cases h with
      | outside index hw => exact .refl _
      | inside hsplit hw hwalks => exact hwalks.before

end GoesBeside

/-- At the start of its program the machine is beside itself without the text, which may come
    first. -/
theorem goesBeside_start (hd : Inert inputEnd P d) (p : Text) (hw : P w) :
    GoesBeside inputEnd P p d (.running ⟨0, w⟩) (.running ⟨0, w⟩) := by
  cases p with
  | nil => exact .running (beside_seam hd [] hw)
  | cons c p =>
      have houtside : Beside inputEnd P (c :: p) d
          ⟨Text.moved (c :: p).length d.length 0, w⟩ ⟨0, w⟩ := .outside 0 hw
      rw [Text.moved_of_lt (by simp)] at houtside
      exact .running houtside

/-- **A text that leads nowhere**: put into a program anywhere, it changes nothing of how that ends,
    except for the offset of a `]` behind it that has no `[`. -/
theorem endsFrom_putIn_iff (hd : Inert inputEnd P d) (p q : Text) (hw : P w) :
    (ofProgram (p ++ (d ++ q)) inputEnd).EndsFrom ⟨0, w⟩ result w' ↔
      ∃ result', (ofProgram (p ++ q) inputEnd).EndsFrom ⟨0, w⟩ result' w' ∧
        result = result'.mapError (.putIn p d) := by
  have hstart := goesBeside_start hd p hw
  simp only [endsFrom_iff_iterate]
  constructor
  · rintro ⟨n, hn⟩
    obtain ⟨steps, hbeside⟩ := hstart.iterate_with (q := q) hd n
    rw [hn] at hbeside
    generalize hsteps : (ofProgram (p ++ q) inputEnd).next^[steps] _ = o at hbeside
    cases hbeside with
    | finished result' w => exact ⟨result', ⟨steps, hsteps⟩, rfl⟩
  · rintro ⟨result', ⟨n, hn⟩, rfl⟩
    obtain ⟨steps, hsteps⟩ := hstart.iterate_without (q := q) hd n
    rw [hn] at hsteps
    exact ⟨steps, hsteps⟩

end JumpMachine

/-! ## Runs -/

namespace Machine

variable {m : Machine} {reader : Reader} {writer : Writer} {P : World → Prop} {p d q : Text}

/-- A run comes to the same with such a text in its program and without it. -/
theorem meets_putIn_iff (hd : Inert m.setup.inputEnd P d) (hw : P ⟨m.tape, reader, writer⟩)
    (htape : m.tape.Valid) (hwith : (p ++ (d ++ q)).width < wordLimit)
    (hwithout : (p ++ q).width < wordLimit) (fate : Fate) :
    { m with program := p ++ (d ++ q) }.Meets reader writer fate ↔
      ∃ fate', { m with program := p ++ q }.Meets reader writer fate' ∧
        fate = fate'.map (Except.mapError (.putIn p d)) id := by
  have hmeets : ∀ {t : Text} {result w}, t.width < wordLimit →
      ({ m with program := t }.Meets reader writer (.ended result w) ↔ _) :=
    fun ht => meets_iff_endsFrom htape ht
  refine meets_map_iff { m with program := p ++ q } { m with program := p ++ (d ++ q) } htape
    hwithout htape hwith ?_ fate
  intro result w
  refine (hmeets hwith).trans ((JumpMachine.endsFrom_putIn_iff hd p q hw).trans ?_)
  constructor
  · rintro ⟨result', h, htold⟩
    exact ⟨result', w, (hmeets hwithout).mpr h, htold, rfl⟩
  · rintro ⟨result', w', h, htold, rfl⟩
    exact ⟨result', (hmeets hwithout).mp h, htold⟩

/-- Also where a run goes on for ever, it writes and reads the same with the text and without it. -/
theorem keepsUp_putIn (hd : Inert m.setup.inputEnd P d) (hw : P ⟨m.tape, reader, writer⟩)
    (htape : m.tape.Valid) (hwith : (p ++ (d ++ q)).width < wordLimit)
    (hwithout : (p ++ q).width < wordLimit) :
    KeepsUp { m with program := p ++ q } { m with program := p ++ (d ++ q) } reader writer ∧
      KeepsUp { m with program := p ++ (d ++ q) } { m with program := p ++ q } reader writer := by
  have hstart := JumpMachine.goesBeside_start hd p hw
  constructor
  · refine keepsUp_of_steps htape hwithout htape hwith fun n => ?_
    obtain ⟨steps, hbeside⟩ := hstart.iterate_with (q := q) hd n
    exact ⟨steps, hbeside.before⟩
  · refine keepsUp_of_steps htape hwith htape hwithout fun n => ?_
    obtain ⟨steps, hsteps⟩ := hstart.iterate_without (q := q) hd n
    refine ⟨steps, ?_⟩
    rw [jumped, jumped, hsteps, JumpProgress.world_putIn]
    exact .refl _

end Machine

end TextCursor
