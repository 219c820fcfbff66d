import Mathlib.Logic.Function.Iterate
import TextCursor.Proofs.Brackets
import TextCursor.Proofs.Worlds

/-! # The jump machine

    The usual machine for bracket programs: it computes a table of the pairs of
    brackets once, counts characters, and jumps.  It has no open loops and never
    walks through a loop that it does not execute.

    The table comes from one pass with a stack of indices.  `mem_pairs_iff` says
    that it holds exactly the pairs between whose brackets all brackets match, and
    from that the two look-ups of the machine are known at every bracket. -/

namespace TextCursor

namespace Text

/-! ## Pairs of brackets -/

/-- The pairs that a text closes, given the index at which it begins and the indices of the
    brackets that are open there, the innermost first. -/
def pairsFrom (index : Nat) (opened : List Nat) : Text → List (Nat × Nat)
  | [] => []
  | c :: t =>
    if c = '[' then pairsFrom (index + 1) (index :: opened) t
    else if c = ']' then
      (opened.head?.map (·, index)).toList ++ pairsFrom (index + 1) opened.tail t
    else pairsFrom (index + 1) opened t

/-- The indices of each `[` that is closed and of the `]` that closes it. -/
def pairs (t : Text) : List (Nat × Nat) :=
  pairsFrom 0 [] t

/-- There are a `[` and a `]` at two indices, and all brackets between them match. -/
def IsPair (t : Text) (start stop : Nat) : Prop :=
  ∃ front body back, t = front ++ '[' :: (body ++ ']' :: back) ∧ Balanced body ∧
    front.length = start ∧ (front ++ '[' :: body).length = stop

variable {t front back body : Text} {c : Char} {start stop : Nat}

/-- The `]` of a pair is part of the text. -/
theorem IsPair.lt_length (h : IsPair t start stop) : stop < t.length := by
  obtain ⟨front, body, back, rfl, -, -, rfl⟩ := h
  simp

/-- The character at an index ends a pair when it is a `]` and a bracket is open; the innermost
    one is the other of the pair. -/
theorem isPair_length_iff :
    IsPair (front ++ c :: back) start front.length ↔
      c = ']' ∧ start ∈ ((openings front).map List.length).head? := by
  rw [List.head?_map, Option.mem_def, Option.map_eq_some_iff]
  constructor
  · rintro ⟨before, body, rest, heq, hbody, hstart, hstop⟩
    have hcut : (before ++ '[' :: body) ++ ']' :: rest = front ++ c :: back := by
      rw [heq, List.append_assoc, List.cons_append]
    obtain ⟨rfl, hback⟩ := List.append_inj hcut hstop
    refine ⟨(List.cons.inj hback).1.symm, before, ?_, hstart⟩
    rw [openings_append_open hbody, List.head?_cons]
  · rintro ⟨rfl, before, hopen, hstart⟩
    obtain ⟨outer, hstack⟩ := List.head?_eq_some_iff.mp hopen
    obtain ⟨body, rfl, hbody, -⟩ := eq_of_openings_eq_cons hstack
    exact ⟨before, body, back, by simp, hbody, hstart, rfl⟩

/-- A pair that ends in a text ends with its first character or later. -/
theorem isPair_from_iff :
    (IsPair (front ++ c :: back) start stop ∧ front.length ≤ stop) ↔
      (stop = front.length ∧ c = ']' ∧ start ∈ ((openings front).map List.length).head?) ∨
        (IsPair (front ++ c :: back) start stop ∧ front.length + 1 ≤ stop) := by
  have hhere : IsPair (front ++ c :: back) start front.length ↔
      c = ']' ∧ start ∈ ((openings front).map List.length).head? := isPair_length_iff
  rw [← hhere]
  constructor
  · rintro ⟨hpair, hle⟩
    by_cases hstop : stop = front.length
    · exact Or.inl ⟨hstop, hstop ▸ hpair⟩
    · exact Or.inr ⟨hpair, by omega⟩
  · rintro (⟨rfl, hpair⟩ | ⟨hpair, hle⟩)
    · exact ⟨hpair, Nat.le_refl _⟩
    · exact ⟨hpair, by omega⟩

/-- The pass finds the pairs that end in what it has yet to read. -/
theorem mem_pairsFrom_iff (back front : Text) :
    (start, stop) ∈ pairsFrom front.length ((openings front).map List.length) back ↔
      IsPair (front ++ back) start stop ∧ front.length ≤ stop := by
  induction back generalizing front with
  | nil =>
      rw [List.append_nil]
      exact ⟨nofun, fun ⟨hpair, hle⟩ => absurd hpair.lt_length (Nat.not_lt.mpr hle)⟩
  | cons c back ih =>
      have hnext := ih (front ++ [c])
      rw [List.append_assoc, List.singleton_append, List.length_append,
        List.length_singleton] at hnext
      rw [isPair_from_iff, ← hnext, pairsFrom]
      -- only a `]` ends a pair here, and the pass records it together with the top of the stack
      by_cases hopen : c = '['
      · subst hopen
        rw [if_pos rfl, openings_open, List.map_cons]
        exact ⟨Or.inr, fun h => h.resolve_left fun hend => nomatch hend.2.1⟩
      rw [if_neg hopen]
      by_cases hclose : c = ']'
      · subst hclose
        rw [if_pos rfl, openings_close, List.map_tail, List.mem_append]
        apply or_congr_left
        rw [Option.mem_toList, Option.mem_def, Option.map_eq_some_iff]
        constructor
        · rintro ⟨start', hstart, heq⟩
          obtain ⟨rfl, rfl⟩ := Prod.mk.inj heq
          exact ⟨rfl, rfl, hstart⟩
        · rintro ⟨rfl, -, hstart⟩
          exact ⟨start, hstart, rfl⟩
      · rw [if_neg hclose, openings_plain front hopen hclose]
        exact ⟨Or.inr, fun h => h.resolve_left fun hend => hclose hend.2.1⟩

/-- **The table is right**: it holds exactly the pairs of brackets between which all match. -/
theorem mem_pairs_iff : (start, stop) ∈ pairs t ↔ IsPair t start stop := by
  have h : (start, stop) ∈ pairs t ↔ IsPair ([] ++ t) start stop ∧ 0 ≤ stop :=
    mem_pairsFrom_iff t []
  rw [List.nil_append] at h
  exact h.trans ⟨fun hpair => hpair.1, fun hpair => ⟨hpair, Nat.zero_le _⟩⟩

example : pairs ['[', 'é', '[', ']', ']', ']', '['] = [(2, 3), (0, 4)] := by decide

/-- A `]` closes one bracket only. -/
theorem IsPair.start_unique {other : Nat} (h : IsPair t start stop) (h' : IsPair t other stop) :
    start = other := by
  obtain ⟨front, body, back, rfl, hbody, rfl, rfl⟩ := h
  have hsplit : front ++ '[' :: (body ++ ']' :: back) = (front ++ '[' :: body) ++ ']' :: back := by
    simp
  rw [hsplit] at h'
  obtain ⟨-, hhead⟩ := isPair_length_iff.mp h'
  rw [openings_append_open hbody, List.map_cons, List.head?_cons] at hhead
  exact Option.some.inj hhead

/-- Behind the `]` that closes it a bracket is no longer open. -/
theorem IsPair.stop_le {other : Nat} (h : IsPair t start stop) (h' : IsPair t start other) :
    other ≤ stop := by
  obtain ⟨front, body, back, rfl, hbody, rfl, rfl⟩ := h
  obtain ⟨front', body', back', heq, hbody', hstart, rfl⟩ := h'
  obtain ⟨rfl, -⟩ := List.append_inj heq hstart.symm
  by_contra hlt
  have hshort : (front ++ '[' :: body) ++ [']'] <+: front ++ '[' :: body' := by
    have hwhole : (front ++ '[' :: body) ++ [']'] <+: front ++ '[' :: (body ++ ']' :: back) :=
      ⟨back, by simp⟩
    have hother : front ++ '[' :: body' <+: front ++ '[' :: (body ++ ']' :: back) :=
      ⟨']' :: back', by simp [heq]⟩
    refine List.prefix_of_prefix_length_le hwhole hother ?_
    rw [List.length_append, List.length_singleton]
    omega
  obtain ⟨u, hu⟩ := hshort
  have hmem : front ∈ openings ((front ++ '[' :: body) ++ [']'] ++ u) := by
    rw [hu, openings_append_open hbody']
    exact List.mem_cons_self
  have hopen := mem_openings_of_append hmem (by simp)
  rw [openings_close, openings_append_open hbody, List.tail_cons] at hopen
  exact absurd (length_openings_lt hopen) (Nat.lt_irrefl _)

/-- A `[` is closed by one bracket only. -/
theorem IsPair.stop_unique {other : Nat} (h : IsPair t start stop) (h' : IsPair t start other) :
    stop = other :=
  Nat.le_antisymm (h'.stop_le h) (h.stop_le h')

/-- The other bracket of a pair is found in the table by either of the two. -/
theorem map_find?_eq_some (key value : Nat × Nat → Nat) {table : List (Nat × Nat)} {p : Nat × Nat}
    (hmem : p ∈ table) (hunique : ∀ q ∈ table, key q = key p → value q = value p) :
    (table.find? (key · == key p)).map value = some (value p) := by
  cases hfind : table.find? (key · == key p) with
  | none =>
      have hnot := List.find?_eq_none.mp hfind p hmem
      exact absurd (beq_self_eq_true (key p)) hnot
  | some q =>
      have hkey := List.find?_some hfind
      rw [Option.map_some, hunique q (List.mem_of_find?_eq_some hfind) (eq_of_beq hkey)]

end Text

/-! ## The machine -/

/-- A program with the table of its pairs of brackets. -/
structure JumpMachine where
  program : Text
  /-- What a read stores when the input has ended. -/
  inputEnd : EndOfInput
  table : List (Nat × Nat)

/-- Where a jump machine stands in its program, in characters, and the world it works on. -/
structure JumpStage where
  index : Nat
  world : World

/-- Whether a jump machine goes on, or how it has ended. -/
inductive JumpProgress where
  | running (s : JumpStage)
  | finished (result : Except MachineError Unit) (w : World)

namespace JumpMachine

/-- The machine of a program. -/
def ofProgram (program : Text) (inputEnd : EndOfInput) : JumpMachine :=
  ⟨program, inputEnd, program.pairs⟩

/-- The index of the `]` that closes the `[` at an index. -/
def closing? (m : JumpMachine) (index : Nat) : Option Nat :=
  (m.table.find? (·.1 == index)).map (·.2)

/-- The index of the `[` that the `]` at an index closes. -/
def opening? (m : JumpMachine) (index : Nat) : Option Nat :=
  (m.table.find? (·.2 == index)).map (·.1)

/-- Where a `[` at an index jumps when the current cell is zero: just past its `]`, or to the end
    of the program if it has none. -/
def afterLoop (m : JumpMachine) (index : Nat) : Nat :=
  match m.closing? index with
  | some stop => stop + 1
  | none => m.program.length

/-- Executes the character at the index; at the end of the program the output is flushed. -/
def step (m : JumpMachine) (s : JumpStage) : JumpProgress :=
  match m.program[s.index]? with
  | none => .finished s.world.flushed.1 s.world.flushed.2
  | some '[' =>
    if s.world.tape.cell = 0 then .running ⟨m.afterLoop s.index, s.world⟩
    else .running ⟨s.index + 1, s.world⟩
  | some ']' =>
    match m.opening? s.index with
    | some start => .running ⟨start, s.world⟩
    | none => .finished (.error (.unmatchedLoopEnd (Text.width (m.program.take s.index)))) s.world
  | some instruction =>
    match s.world.act m.inputEnd instruction with
    | (none, w) => .running ⟨s.index + 1, w⟩
    | (some failure, w) => .finished (.error (.io failure)) w

/-- A step of what goes on; what has ended stays. -/
def next (m : JumpMachine) : JumpProgress → JumpProgress
  | .running s => m.step s
  | .finished result w => .finished result w

variable {front back body : Text} {c : Char} {inputEnd : EndOfInput} {w : World}

/-! ## Look-ups -/

/-- The loop of a balanced body ends behind the `]` that follows it. -/
theorem afterLoop_of_balanced (hbody : Text.Balanced body) :
    (ofProgram (front ++ '[' :: (body ++ ']' :: back)) inputEnd).afterLoop front.length
      = (front ++ '[' :: body).length + 1 := by
  have hpair : Text.IsPair (front ++ '[' :: (body ++ ']' :: back)) front.length
      (front ++ '[' :: body).length := ⟨front, body, back, rfl, hbody, rfl, rfl⟩
  have hfind : (ofProgram (front ++ '[' :: (body ++ ']' :: back)) inputEnd).closing? front.length
      = some (front ++ '[' :: body).length := by
    refine Text.map_find?_eq_some Prod.fst Prod.snd (Text.mem_pairs_iff.mpr hpair) ?_
    rintro ⟨start, stop⟩ hmem rfl
    exact (Text.mem_pairs_iff.mp hmem).stop_unique hpair
  rw [afterLoop, hfind]

/-- The loop of a `[` that nothing closes ends with the text. -/
theorem afterLoop_of_unclosed
    (hnone : ∀ inner rest, back = inner ++ ']' :: rest → ¬ Text.Balanced inner) :
    (ofProgram (front ++ '[' :: back) inputEnd).afterLoop front.length
      = (front ++ '[' :: back).length := by
  have hfind : (ofProgram (front ++ '[' :: back) inputEnd).closing? front.length = none := by
    rw [closing?, Option.map_eq_none_iff, List.find?_eq_none]
    rintro ⟨start, stop⟩ hmem hstart
    obtain ⟨front', body, rest, heq, hbody, hfront, -⟩ := Text.mem_pairs_iff.mp hmem
    obtain ⟨-, hback⟩ := List.append_inj heq ((eq_of_beq hstart).symm.trans hfront.symm)
    exact hnone body rest (List.cons.inj hback).2 hbody
  rw [afterLoop, hfind]
  rfl

/-- Behind a balanced body, the `[` of a `]` is the one before the body. -/
theorem opening?_of_balanced (hbody : Text.Balanced body) :
    (ofProgram (front ++ '[' :: (body ++ ']' :: back)) inputEnd).opening?
      (front ++ '[' :: body).length = some front.length := by
  have hpair : Text.IsPair (front ++ '[' :: (body ++ ']' :: back)) front.length
      (front ++ '[' :: body).length := ⟨front, body, back, rfl, hbody, rfl, rfl⟩
  refine Text.map_find?_eq_some Prod.snd Prod.fst (Text.mem_pairs_iff.mpr hpair) ?_
  rintro ⟨start, stop⟩ hmem rfl
  exact (Text.mem_pairs_iff.mp hmem).start_unique hpair

/-- A `]` before which no bracket is open has no `[`. -/
theorem opening?_of_stray (hnil : Text.openings front = []) :
    (ofProgram (front ++ ']' :: back) inputEnd).opening? front.length = none := by
  rw [opening?, Option.map_eq_none_iff, List.find?_eq_none]
  rintro ⟨start, stop⟩ hmem hstop
  obtain rfl := eq_of_beq hstop
  obtain ⟨-, hhead⟩ := Text.isPair_length_iff.mp (Text.mem_pairs_iff.mp hmem)
  rw [hnil] at hhead
  exact nomatch hhead

/-! ## Steps -/

variable {m : JumpMachine}

/-- At the end of its program the machine flushes and is done. -/
theorem step_end (program : Text) (w : World) :
    (ofProgram program inputEnd).step ⟨program.length, w⟩
      = .finished w.flushed.1 w.flushed.2 := by
  have hnone : (ofProgram program inputEnd).program[program.length]? = none :=
    List.getElem?_eq_none (Nat.le_refl _)
  simp only [step, hnone]

theorem getElem?_program (hprogram : m.program = front ++ c :: back) :
    m.program[front.length]? = some c := by
  rw [hprogram, List.getElem?_append_right (Nat.le_refl _), Nat.sub_self]
  rfl

/-- At a `[` the machine jumps out of the loop if the cell is zero. -/
theorem step_jump (hprogram : m.program = front ++ '[' :: back) (hzero : w.tape.cell = 0) :
    m.step ⟨front.length, w⟩ = .running ⟨m.afterLoop front.length, w⟩ := by
  simp only [step, getElem?_program hprogram, if_pos hzero]

/-- At a `[` the machine enters the loop if the cell is not zero. -/
theorem step_enter (hprogram : m.program = front ++ '[' :: back) (hzero : w.tape.cell ≠ 0) :
    m.step ⟨front.length, w⟩ = .running ⟨front.length + 1, w⟩ := by
  simp only [step, getElem?_program hprogram, if_neg hzero]

/-- At a `]` the machine jumps back to the `[`. -/
theorem step_back (hprogram : m.program = front ++ ']' :: back) {start : Nat}
    (hopening : m.opening? front.length = some start) :
    m.step ⟨front.length, w⟩ = .running ⟨start, w⟩ := by
  simp only [step, getElem?_program hprogram, hopening]

/-- At a `]` without a `[` the machine fails. -/
theorem step_stray (hprogram : m.program = front ++ ']' :: back)
    (hopening : m.opening? front.length = none) :
    m.step ⟨front.length, w⟩ = .finished (.error (.unmatchedLoopEnd front.width)) w := by
  have htake : m.program.take front.length = front := by
    rw [hprogram, List.take_left]
  simp only [step, getElem?_program hprogram, hopening, htake]

/-- What is no bracket acts on the world, and the machine goes on unless that fails. -/
theorem step_plain (hprogram : m.program = front ++ c :: back) (hopen : c ≠ '[')
    (hclose : c ≠ ']') :
    m.step ⟨front.length, w⟩ = match w.act m.inputEnd c with
      | (none, w') => .running ⟨front.length + 1, w'⟩
      | (some failure, w') => .finished (.error (.io failure)) w' := by
  unfold step
  rw [getElem?_program hprogram]
  split
  · rename_i hnone
    exact nomatch hnone
  · rename_i heq
    exact absurd (Option.some.inj heq) hopen
  · rename_i heq
    exact absurd (Option.some.inj heq) hclose
  · rename_i heq
    obtain rfl := Option.some.inj heq
    rfl

end JumpMachine

end TextCursor
