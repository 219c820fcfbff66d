import Mathlib.Logic.Function.Iterate
import TextCursor.Proofs.Worlds

/-! # The tape is a ring

    A byte wraps around after 256 increments and the pointer wraps around at both
    ends of the tape.  So on a valid tape increments are additions of bytes
    (`Tape.Valid.iterate_add`), moves to the right are additions of indices modulo the
    number of cells (`Tape.Valid.iterate_right`), and each instruction is undone by
    another one.

    Nor has the ring a first cell: a tape that is rotated is read, written and moved
    along as before, in its new place.  Only moves to the right are compared by
    arithmetic; a move to the left is what they undo. -/

namespace TextCursor

namespace Tape

variable {t : Tape} {i k : Nat}

/-! ## The current cell -/

/-- The tape with a byte added to the one in the current cell. -/
def add (b : UInt8) (t : Tape) : Tape :=
  t.put (t.cell + b)

/-- Of two bytes put into a cell the second one stays. -/
theorem put_put (t : Tape) (a b : UInt8) : (t.put a).put b = t.put b := by
  show (⟨_, t.pointer⟩ : Tape) = ⟨_, t.pointer⟩
  congr 1
  exact Array.setIfInBounds_setIfInBounds a

namespace Valid

/-- A cell holds what is put into it. -/
theorem cell_put (h : t.Valid) (b : UInt8) : (t.put b).cell = b := by
  have hlt := (h.put b).pointer_lt
  rw [cell, Array.getD, dif_pos hlt]
  exact Array.getElem_setIfInBounds_self _

/-- Only the current cell is changed. -/
theorem getD_put (h : t.Valid) (b : UInt8) (i : Nat) :
    (t.put b).cells.getD i 0 = if t.pointer = i then b else t.cells.getD i 0 := by
  rw [Array.getD_eq_getD_getElem?, Array.getD_eq_getD_getElem?]
  show ((t.cells.setIfInBounds t.pointer b)[i]?).getD 0 = _
  rw [Array.getElem?_setIfInBounds, if_pos h.pointer_lt]
  split <;> rfl

/-- Putting back what a cell holds changes nothing. -/
theorem put_cell (h : t.Valid) : t.put t.cell = t := by
  obtain ⟨cells, pointer⟩ := t
  have hlt : pointer < cells.size := h.pointer_lt
  show (⟨cells.setIfInBounds pointer (cells.getD pointer 0), pointer⟩ : Tape) = _
  congr 1
  rw [Array.getD, dif_pos hlt, Array.setIfInBounds, dif_pos hlt]
  exact Array.set_getElem_self hlt

theorem add_zero (h : t.Valid) : t.add 0 = t := by
  rw [Tape.add, UInt8.add_zero, h.put_cell]

/-- Additions to one cell add up. -/
theorem add_add (h : t.Valid) (a b : UInt8) : (t.add a).add b = t.add (a + b) := by
  rw [Tape.add, Tape.add, h.cell_put, put_put, UInt8.add_assoc]
  rfl

/-- Bytes added one after the other are added at once. -/
theorem iterate_add (h : t.Valid) (b : UInt8) (k : Nat) :
    (Tape.add b)^[k] t = t.add (UInt8.ofNat k * b) := by
  induction k with
  | zero =>
      show t = t.add (0 * b)
      rw [UInt8.zero_mul, h.add_zero]
  | succ k ih =>
      rw [Function.iterate_succ_apply', ih, h.add_add, UInt8.ofNat_add, UInt8.add_mul]
      show _ = t.add (_ + 1 * b)
      rw [UInt8.one_mul]

/-- There are 256 bytes. -/
theorem iterate_add_all (h : t.Valid) (b : UInt8) : (Tape.add b)^[256] t = t := by
  have hwrap : UInt8.ofNat 256 = 0 := rfl
  rw [h.iterate_add, hwrap, UInt8.zero_mul, h.add_zero]

/-! ## Moves -/

/-- One move to the left takes one to the right back. -/
theorem left_right (h : t.Valid) : t.right.left = t := by
  obtain ⟨cells, pointer⟩ := t
  have hlt : pointer < cells.size := h.pointer_lt
  show (⟨cells, if (pointer + 1) % cells.size = 0 then cells.size - 1
    else (pointer + 1) % cells.size - 1⟩ : Tape) = _
  congr 1
  rcases Nat.eq_or_lt_of_le (Nat.succ_le_of_lt hlt) with heq | hlt'
  · -- the pointer is at the last cell
    rw [← heq, Nat.mod_self, if_pos rfl]
    rfl
  · rw [Nat.mod_eq_of_lt hlt', if_neg (Nat.succ_ne_zero _)]
    rfl

/-- A step to the right undoes a step to the left. -/
theorem right_left (h : t.Valid) : t.left.right = t := by
  obtain ⟨cells, pointer⟩ := t
  have hlt : pointer < cells.size := h.pointer_lt
  show (⟨cells, ((if pointer = 0 then cells.size - 1 else pointer - 1) + 1) % cells.size⟩ : Tape)
    = _
  congr 1
  by_cases hzero : pointer = 0
  · rw [if_pos hzero, Nat.sub_add_cancel (Nat.lt_of_le_of_lt (Nat.zero_le _) hlt), Nat.mod_self,
      hzero]
  · rw [if_neg hzero, Nat.sub_add_cancel (Nat.pos_of_ne_zero hzero), Nat.mod_eq_of_lt hlt]

/-- Where some moves to the right lead to. -/
theorem iterate_right (h : t.Valid) (k : Nat) :
    Tape.right^[k] t = ⟨t.cells, (t.pointer + k) % t.cells.size⟩ := by
  induction k with
  | zero => rw [Function.iterate_zero_apply, Nat.add_zero, Nat.mod_eq_of_lt h.pointer_lt]
  | succ k ih =>
      rw [Function.iterate_succ_apply', ih]
      show (⟨t.cells, ((t.pointer + k) % t.cells.size + 1) % t.cells.size⟩ : Tape) = _
      rw [Nat.mod_add_mod, Nat.add_assoc]

/-- As many moves as there are cells lead around the tape. -/
theorem iterate_right_size (h : t.Valid) : Tape.right^[t.cells.size] t = t := by
  rw [h.iterate_right, Nat.add_mod_right, Nat.mod_eq_of_lt h.pointer_lt]

/-- As many steps to the left undo as many to the right. -/
theorem iterate_left_right (k : Nat) : ∀ {t : Tape}, t.Valid →
    Tape.left^[k] (Tape.right^[k] t) = t := by
  induction k with
  | zero => exact fun _ => rfl
  | succ k ih =>
      intro t h
      rw [Function.iterate_succ_apply', Function.iterate_succ_apply, ih h.right, h.left_right]

/-- Once around the ring to the left leads back. -/
theorem iterate_left_size (h : t.Valid) : Tape.left^[t.cells.size] t = t := by
  have hround := iterate_left_right t.cells.size h
  rwa [h.iterate_right_size] at hround

end Valid

/-! ## Rotations -/

/-- The index so many cells before another one on a ring. -/
def back (cells k i : Nat) : Nat :=
  (i + (cells - k % cells)) % cells

/-- The tape with all its bytes and the pointer so many cells further on around the ring. -/
def rotate (k : Nat) (t : Tape) : Tape :=
  ⟨Array.ofFn fun i : Fin t.cells.size => t.cells.getD (back t.cells.size k i) 0,
    (t.pointer + k) % t.cells.size⟩

/-- So many cells before and so many cells after an index is that index. -/
theorem back_add_mod {cells : Nat} (hi : i < cells) (k : Nat) :
    (back cells k i + k) % cells = i := by
  have hk : k % cells < cells := Nat.mod_lt _ (Nat.lt_of_le_of_lt (Nat.zero_le i) hi)
  have hround : i + (cells - k % cells) + k % cells = i + cells := by omega
  rw [back, Nat.mod_add_mod, ← Nat.add_mod_mod, hround, Nat.add_mod_right, Nat.mod_eq_of_lt hi]

/-- So many cells after and so many cells before an index is that index. -/
theorem back_mod_add {cells : Nat} (hi : i < cells) (k : Nat) :
    back cells k ((i + k) % cells) = i := by
  have hk : k % cells < cells := Nat.mod_lt _ (Nat.lt_of_le_of_lt (Nat.zero_le i) hi)
  have hround : i + k % cells + (cells - k % cells) = i + cells := by omega
  rw [back, Nat.mod_add_mod, Nat.add_right_comm, ← Nat.add_mod_mod, Nat.add_right_comm, hround,
    Nat.add_mod_right, Nat.mod_eq_of_lt hi]

/-- An index is so many cells after another one if that is so many cells before it. -/
theorem add_mod_eq_iff {cells j : Nat} (hi : i < cells) (hj : j < cells) (k : Nat) :
    (j + k) % cells = i ↔ j = back cells k i := by
  constructor
  · rintro rfl
    exact (back_mod_add hj k).symm
  · rintro rfl
    exact back_add_mod hi k

theorem size_rotate (k : Nat) (t : Tape) : (t.rotate k).cells.size = t.cells.size :=
  Array.size_ofFn

/-- At an index of the rotated tape is the byte so many cells before it. -/
theorem getElem_rotate (hi : i < (t.rotate k).cells.size) :
    (t.rotate k).cells[i] = t.cells.getD (back t.cells.size k i) 0 :=
  Array.getElem_ofFn hi

/-- Each byte is found so many cells further on. -/
theorem getD_rotate (hi : i < t.cells.size) (k : Nat) :
    (t.rotate k).cells.getD ((i + k) % t.cells.size) 0 = t.cells.getD i 0 := by
  have hlt : (i + k) % t.cells.size < (t.rotate k).cells.size := by
    rw [size_rotate]
    exact Nat.mod_lt _ (Nat.lt_of_le_of_lt (Nat.zero_le i) hi)
  rw [Array.getD, dif_pos hlt]
  show (t.rotate k).cells[(i + k) % t.cells.size] = _
  rw [getElem_rotate, back_mod_add hi]

example : rotate 4 ⟨#[1, 2, 3], 2⟩ = ⟨#[3, 1, 2], 0⟩ := by
  decide

/-- A tape of zeros is the same when it is rotated; only the pointer is in another place. -/
theorem rotate_blank (length : Nat) {cell : Nat} (hcell : cell < (blank length).cells.size) :
    (blank length).rotate cell = ⟨(blank length).cells, cell⟩ := by
  have hzero : ∀ i, (blank length).cells.getD i 0 = 0 := by
    intro i
    rw [Array.getD]
    split
    · exact Array.getElem_replicate _
    · rfl
  have hcells : ((blank length).rotate cell).cells = (blank length).cells := by
    refine Array.ext (size_rotate _ _) fun i hi hi' => ?_
    rw [getElem_rotate, hzero]
    exact (Array.getElem_replicate _).symm
  have hpointer : (0 + cell) % (blank length).cells.size = cell := by
    rw [Nat.zero_add, Nat.mod_eq_of_lt hcell]
  show (⟨((blank length).rotate cell).cells, (0 + cell) % (blank length).cells.size⟩ : Tape) = _
  rw [hcells, hpointer]

/-- It makes no difference whether the pointer moves right before or after the rotation. -/
theorem rotate_right (k : Nat) (t : Tape) : t.right.rotate k = (t.rotate k).right := by
  have hpointer : ((t.pointer + 1) % t.cells.size + k) % t.cells.size
      = ((t.pointer + k) % t.cells.size + 1) % (t.rotate k).cells.size := by
    rw [size_rotate, Nat.mod_add_mod, Nat.mod_add_mod, Nat.add_right_comm]
  exact congrArg (Tape.mk (t.rotate k).cells) hpointer

namespace Valid

/-- A rotated tape is valid. -/
theorem rotate (h : t.Valid) (k : Nat) : (t.rotate k).Valid where
  pointer_lt := by
    rw [size_rotate]
    exact Nat.mod_lt _ (Nat.lt_of_le_of_lt (Nat.zero_le _) h.pointer_lt)
  fits := by
    rw [size_rotate]
    exact h.fits

/-- The current cell is rotated with the pointer. -/
theorem cell_rotate (h : t.Valid) (k : Nat) : (t.rotate k).cell = t.cell :=
  getD_rotate h.pointer_lt k

/-- It makes no difference whether a byte is put before or after the rotation. -/
theorem rotate_put (h : t.Valid) (k : Nat) (b : UInt8) :
    (t.put b).rotate k = (t.rotate k).put b := by
  have hsize : (t.put b).cells.size = t.cells.size := Array.size_setIfInBounds
  have hpointer : ((t.put b).rotate k).pointer = ((t.rotate k).put b).pointer := by
    show (t.pointer + k) % (t.put b).cells.size = (t.pointer + k) % t.cells.size
    rw [hsize]
  have hcells : ((t.put b).rotate k).cells = ((t.rotate k).put b).cells := by
    refine Array.ext ?_ fun i hi hi' => ?_
    · rw [size_rotate, hsize]
      exact (Array.size_setIfInBounds.trans (size_rotate k t)).symm
    · have hlt : i < t.cells.size := by
        rwa [size_rotate, hsize] at hi
      have hrotated : i < (t.rotate k).cells.size := by
        rwa [size_rotate]
      have hput : ((t.rotate k).put b).cells[i] = if (t.pointer + k) % t.cells.size = i then b
          else (t.rotate k).cells[i] := Array.getElem_setIfInBounds _
      -- the byte at an index has been put there if it was put so many cells before
      rw [getElem_rotate, hput, getElem_rotate, hsize, h.getD_put]
      simp only [add_mod_eq_iff hlt h.pointer_lt]
  exact congrArg₂ Tape.mk hcells hpointer

/-- A move to the left is undone by one to the right, before and after the tape is rotated. -/
theorem rotate_left (h : t.Valid) (k : Nat) : t.left.rotate k = (t.rotate k).left := by
  have hright : (t.left.rotate k).right = t.rotate k := by
    rw [← rotate_right, h.right_left]
  rw [← hright, (h.left.rotate k).left_right]

end Valid

end Tape

end TextCursor
