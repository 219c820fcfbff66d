import TextCursor.Proofs.Insertions
import TextCursor.Proofs.TapeRing
import TextCursor.Proofs.TapeSafety

/-! # Instructions that cancel out

    An increment and a decrement cancel out, and so do a move to the right and one to
    the left, at both ends of the tape too.  Bytes wrap around after 256 increments or
    decrements and the pointer after as many moves as the tape has cells, so these do
    nothing either.

    Each of the four instructions only changes the tape, `World.Changes`, so all of
    this is a matter of the ring.  What it comes to is that these texts are `Inert`, and
    inert texts can be put into a program anywhere. -/

namespace TextCursor

/-! ## Instructions that change the tape only -/

namespace World

/-- An instruction that makes a change to the tape, and does nothing else. -/
def Changes (c : Char) (change : Tape → Tape) : Prop :=
  ∀ (inputEnd : EndOfInput) (w : World),
    w.act inputEnd c = (none, { w with tape := change w.tape })

theorem changes_right : Changes '>' Tape.right :=
  fun _ _ => rfl

theorem changes_left : Changes '<' Tape.left :=
  fun _ _ => rfl

theorem changes_increment : Changes '+' (Tape.add 1) :=
  fun _ _ => rfl

theorem changes_decrement : Changes '-' (Tape.add (-1)) := by
  intro inputEnd w
  show _ = (none, { w with tape := w.tape.put (w.tape.cell + -1) })
  rw [← UInt8.sub_eq_add_neg]
  rfl

variable {inputEnd : EndOfInput} {c c' : Char} {change change' : Tape → Tape} {w : World}

/-- A character and its opposite lead back to the same world. -/
theorem walks_pair (h : Changes c change) (h' : Changes c' change')
    (hback : change' (change w.tape) = w.tape) : Walks inputEnd [c, c'] w w := by
  have hwalks : Walks inputEnd [c, c'] w { w with tape := change' (change w.tape) } :=
    .cons (h inputEnd w) (.cons (h' inputEnd _) (.nil _))
  rwa [hback] at hwalks

/-- A repeated character repeats its change. -/
theorem walks_replicate (h : Changes c change) (k : Nat) (w : World) :
    Walks inputEnd (List.replicate k c) w { w with tape := change^[k] w.tape } := by
  induction k generalizing w with
  | zero => exact .nil w
  | succ k ih =>
      rw [List.replicate_succ, Function.iterate_succ_apply]
      exact .cons (h inputEnd w) (ih { w with tape := change w.tape })

/-- Repetitions that come back to the same tape lead back to the same world. -/
theorem walks_back (h : Changes c change) {k : Nat} (hback : change^[k] w.tape = w.tape) :
    Walks inputEnd (List.replicate k c) w w := by
  have hwalks : Walks inputEnd (List.replicate k c) w _ := walks_replicate h k w
  rwa [hback] at hwalks

end World

/-! ## Texts that cancel out -/

namespace Text

/-- The texts whose instructions cancel out on a tape of so many cells. -/
def cancelling (cells : Nat) : List Text :=
  [['+', '-'], ['-', '+'], ['<', '>'], ['>', '<'], List.replicate 256 '+', List.replicate 256 '-',
    List.replicate cells '>', List.replicate cells '<']

variable {d : Text} {cells : Nat}

/-- None of them has a bracket in it. -/
theorem plain_of_mem_cancelling (hd : d ∈ cancelling cells) : d.Plain := by
  intro c hc
  have hinstruction : c = '+' ∨ c = '-' ∨ c = '<' ∨ c = '>' := by
    simp only [cancelling, List.mem_cons, List.not_mem_nil, or_false] at hd
    rcases hd with rfl | rfl | rfl | rfl | rfl | rfl | rfl | rfl
    all_goals
      simp only [List.mem_cons, List.mem_replicate, List.not_mem_nil, or_false] at hc
      grind
  rcases hinstruction with rfl | rfl | rfl | rfl
  all_goals exact ⟨by decide, by decide⟩

/-- Each text that cancels out leads back to the same world. -/
theorem walks_of_mem_cancelling {w : World} (hd : d ∈ cancelling w.tape.cells.size)
    (h : w.tape.Valid) (inputEnd : EndOfInput) : World.Walks inputEnd d w w := by
  simp only [cancelling, List.mem_cons, List.not_mem_nil, or_false] at hd
  rcases hd with rfl | rfl | rfl | rfl | rfl | rfl | rfl | rfl
  · refine World.walks_pair World.changes_increment World.changes_decrement ?_
    rw [h.add_add]
    exact h.add_zero
  · refine World.walks_pair World.changes_decrement World.changes_increment ?_
    rw [h.add_add]
    exact h.add_zero
  · exact World.walks_pair World.changes_left World.changes_right h.right_left
  · exact World.walks_pair World.changes_right World.changes_left h.left_right
  · exact World.walks_back World.changes_increment (h.iterate_add_all 1)
  · exact World.walks_back World.changes_decrement (h.iterate_add_all (-1))
  · exact World.walks_back World.changes_right h.iterate_right_size
  · exact World.walks_back World.changes_left h.iterate_left_size

/-- On tapes of so many cells these texts lead nowhere. -/
theorem inert_of_mem_cancelling (hd : d ∈ cancelling cells) (inputEnd : EndOfInput) :
    Inert inputEnd (fun w => w.tape.Valid ∧ w.tape.cells.size = cells) d where
  plain := plain_of_mem_cancelling hd
  walks := by
    rintro w ⟨hvalid, rfl⟩
    exact walks_of_mem_cancelling hd hvalid inputEnd
  keeps := by
    rintro c w ⟨hvalid, rfl⟩
    exact ⟨World.valid_act hvalid inputEnd c, w.size_act inputEnd c⟩

end Text

/-! ## Programs -/

namespace Machine

variable {m : Machine} {d : Text}

/-- **Instructions that cancel out** do nothing, wherever they stand in a program: inside of loops
    that run any number of times, that are skipped or that do not match.  The run with them comes
    to what the run without them comes to, in the same world; only an error behind them is reported
    at a later offset.  Whether or not the two end, each of them comes to write and to read whatever
    the other one does. -/
theorem cancelling_out_changes_nothing (hd : d ∈ Text.cancelling m.tape.cells.size)
    (htape : m.tape.Valid) (p q : Text) (fits : (p ++ d ++ q).width < wordLimit)
    (reader : Reader) (writer : Writer) :
    (∃! fate, { m with program := p ++ q }.Meets reader writer fate) ∧
      (∀ fate, { m with program := p ++ d ++ q }.Meets reader writer fate ↔
        ∃ fate', { m with program := p ++ q }.Meets reader writer fate' ∧
          fate = fate'.map (Except.mapError (.putIn p d)) id) ∧
      KeepsUp { m with program := p ++ q } { m with program := p ++ d ++ q } reader writer ∧
      KeepsUp { m with program := p ++ d ++ q } { m with program := p ++ q } reader writer := by
  rw [List.append_assoc] at fits ⊢
  have fits' : (p ++ q).width < wordLimit := by
    simp only [Text.width_append] at fits ⊢
    omega
  have hunique := existsUnique_meets (m := { m with program := p ++ q }) htape fits' reader writer
  have hinert := Text.inert_of_mem_cancelling hd m.setup.inputEnd
  exact ⟨hunique, meets_putIn_iff hinert ⟨htape, rfl⟩ htape fits fits',
    keepsUp_putIn hinert ⟨htape, rfl⟩ htape fits fits'⟩

/-- Between the `[` and the `-` of a loop that counts down from 2, two moves to the right lead
    around two cells; the `]` that matches nothing is reported two bytes later. -/
theorem cancelling_out_inside_a_loop :
    ['>', '>'] ∈ Text.cancelling 2 ∧ Tape.Valid ⟨#[7, 2], 1⟩ ∧
      Text.width (['é', '['] ++ ['>', '>'] ++ ['-', ']', ']']) < wordLimit ∧
      Meets ⟨['é', '[', '>', '>', '-', ']', ']'], MachineSetup.standard, ⟨#[7, 2], 1⟩, []⟩
        (Reader.ofBytes []) .accepting
        (.ended (.error (.unmatchedLoopEnd 7))
          ⟨⟨#[7, 0], 1⟩, Reader.ofBytes [], ⟨[], none, #[], 0⟩⟩) := by
  have hd : ['>', '>'] ∈ Text.cancelling 2 := by decide
  have htape : Tape.Valid ⟨#[7, 2], 1⟩ := ⟨by decide, by decide⟩
  have fits : Text.width (['é', '['] ++ ['>', '>'] ++ ['-', ']', ']']) < wordLimit := by decide
  have hwithout : Meets ⟨['é', '[', '-', ']', ']'], MachineSetup.standard, ⟨#[7, 2], 1⟩, []⟩
      (Reader.ofBytes []) .accepting
      (.ended (.error (.unmatchedLoopEnd 5))
        ⟨⟨#[7, 0], 1⟩, Reader.ofBytes [], ⟨[], none, #[], 0⟩⟩) :=
    (meets_iff_endsFrom htape (by decide)).mpr (JumpMachine.endsFrom_iff_iterate.mpr ⟨9, rfl⟩)
  exact ⟨hd, htape, fits, ((cancelling_out_changes_nothing
    (m := ⟨[], MachineSetup.standard, ⟨#[7, 2], 1⟩, []⟩) hd htape ['é', '['] ['-', ']', ']'] fits
    (Reader.ofBytes []) .accepting).2.1 _).mpr ⟨_, hwithout, rfl⟩⟩

end Machine

end TextCursor
