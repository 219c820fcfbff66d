import Mathlib.Data.List.Basic
import Mathlib.Order.Bounds.Basic
import Mathlib.Tactic.Choose
import TextCursor.Proofs.CursorSafety

/-! # Moves and peeks go to the nearest boundary

    A move rounds the position asked for down to a boundary, a peek rounds the end of
    what is asked for up.  Both look at one position after the other until they meet a
    boundary: `WalksDown` and `WalksUp` are these walks, and a walk that leaves the text
    is none.  Every walk that starts within the text ends, because both ends of the
    text are boundaries, and it takes at most three steps, because no character has more
    than four bytes.

    Where a walk ends is an extremum, `RoundsDown` or `RoundsUp`.  What else is said
    about moves and peeks follows from that: extrema of sets that grow are in order, and
    of two beginnings of a text the shorter one is a beginning of the longer one. -/

namespace TextCursor

namespace Text

variable {t front back : Text} {n m : Nat}

/-! ## Walks -/

/-- A walk down, byte by byte, to the first boundary met.  From position zero there is no step. -/
inductive WalksDown (t : Text) : Nat → Nat → Prop
  | here {n : Nat} (boundary : t.isBoundary n = true) : WalksDown t n n
  | step {n stop : Nat} (inside : t.isBoundary (n + 1) = false) (walk : WalksDown t n stop) :
      WalksDown t (n + 1) stop

/-- A walk up, byte by byte, to the first boundary met.  From the end of the text there is no
    step. -/
inductive WalksUp (t : Text) : Nat → Nat → Prop
  | here {n : Nat} (boundary : t.isBoundary n = true) : WalksUp t n n
  | step {n stop : Nat} (inside : t.isBoundary n = false) (within : n < t.width)
      (walk : WalksUp t (n + 1) stop) : WalksUp t n stop

/-- Walks down are what `descend` does as long as it meets no fault. -/
theorem descend_eq_ok_iff : t.descend n = .ok m ↔ t.WalksDown n m := by
  constructor
  · intro h
    induction n with
    | zero =>
        rw [descend, if_pos (isBoundary_zero t)] at h
        obtain rfl := Except.ok.inj h
        exact .here (isBoundary_zero t)
    | succ n ih =>
        rw [descend] at h
        by_cases hb : t.isBoundary (n + 1) = true
        · rw [if_pos hb] at h
          obtain rfl := Except.ok.inj h
          exact .here hb
        · rw [if_neg hb] at h
          exact .step (Bool.eq_false_iff.mpr hb) (ih h)
  · intro h
    induction h with
    | here boundary => exact descend_of_isBoundary boundary
    | step inside walk ih => rw [descend, inside, if_neg Bool.false_ne_true, ih]

/-- Walks up are what `ascend` does as long as it meets no fault. -/
theorem ascend_eq_ok_iff : t.ascend n = .ok m ↔ t.WalksUp n m := by
  constructor
  · intro h
    induction n using ascend.induct t with
    | case1 n hb =>
        rw [ascend, if_pos hb] at h
        obtain rfl := Except.ok.inj h
        exact .here hb
    | case2 n hb hlt ih =>
        rw [ascend, if_neg hb, if_pos hlt] at h
        exact .step (Bool.eq_false_iff.mpr hb) hlt (ih h)
    | case3 n hb hge =>
        rw [ascend, if_neg hb, if_neg hge] at h
        cases h
  · intro h
    induction h with
    | here boundary => rw [ascend, if_pos boundary]
    | step inside within walk ih =>
        rw [ascend, inside, if_neg Bool.false_ne_true, if_pos within, ih]

/-! ## Rounding -/

/-- A position rounded down: the greatest boundary that is not above. -/
structure RoundsDown (t : Text) (n stop : Nat) : Prop where
  isGreatest : IsGreatest { k | t.isBoundary k = true ∧ k ≤ n } stop
  near : n ≤ stop + 3
  walk : t.WalksDown n stop

/-- A position rounded up: the least boundary that is not below. -/
structure RoundsUp (t : Text) (n stop : Nat) : Prop where
  isLeast : IsLeast { k | t.isBoundary k = true ∧ n ≤ k } stop
  near : stop ≤ n + 3
  walk : t.WalksUp n stop

/-- A position with no boundary between a cut and itself is at most three bytes behind the cut. -/
theorem le_add_three_of_last (hn : n ≤ width (front ++ back))
    (hlast : ∀ k, isBoundary (front ++ back) k = true → k ≤ n → k ≤ width front) :
    n ≤ width front + 3 := by
  cases back with
  | nil =>
      rw [List.append_nil] at hn
      omega
  | cons d back =>
      have hpos := d.utf8Size_pos
      have hsize := d.utf8Size_le_four
      have hnext := isBoundary_append (front ++ [d]) back
      rw [List.append_assoc, width_append, width_cons, width_nil] at hnext
      by_contra hfar
      have hfront := hlast _ hnext (by omega)
      omega

/-- A position with no boundary between itself and a cut is at most three bytes before the cut. -/
theorem le_add_three_of_first (hn : n ≤ width (front ++ back))
    (hfirst : ∀ k, isBoundary (front ++ back) k = true → n ≤ k → width front ≤ k) :
    width front ≤ n + 3 := by
  rcases List.eq_nil_or_concat' front with rfl | ⟨init, d, rfl⟩
  · rw [width_nil]
    omega
  · have hpos := d.utf8Size_pos
    have hsize := d.utf8Size_le_four
    have hprevious := isBoundary_append init ([d] ++ back)
    rw [← List.append_assoc] at hprevious
    rw [width_append, width_cons, width_nil] at hfirst ⊢
    by_contra hfar
    have hfront := hfirst _ hprevious (by omega)
    omega

/-- Rounding down never leaves the text, and answers for every position. -/
theorem boundaryBelow_rounds (t : Text) (n : Nat) :
    ∃ stop, t.boundaryBelow n = .ok stop ∧ t.RoundsDown (min n t.width) stop := by
  obtain ⟨front, back, rfl, hok, hle, hmax⟩ := boundaryBelow_ok t n
  have hlast : ∀ k, isBoundary (front ++ back) k = true → k ≤ min n (width (front ++ back)) →
      k ≤ width front := fun k hk hkn => hmax k hk (by omega)
  have hwithin : width front ≤ width (front ++ back) :=
    le_width_of_isBoundary (isBoundary_append front back)
  refine ⟨_, hok, ⟨⟨isBoundary_append front back, by omega⟩, ?_⟩, ?_, descend_eq_ok_iff.mp hok⟩
  · exact fun k hk => hlast k hk.1 hk.2
  · exact le_add_three_of_last (Nat.min_le_right _ _) hlast

/-- Rounding up never leaves the text, and answers for every position. -/
theorem boundaryAbove_rounds (t : Text) (n : Nat) :
    ∃ stop, t.boundaryAbove n = .ok stop ∧ t.RoundsUp (min n t.width) stop := by
  obtain ⟨front, back, rfl, hok, hle, hmin⟩ := boundaryAbove_ok t n
  have hfirst : ∀ k, isBoundary (front ++ back) k = true → min n (width (front ++ back)) ≤ k →
      width front ≤ k := by
    intro k hk hnk
    by_cases hn : n ≤ width (front ++ back)
    · exact hmin k hk (by omega)
    · -- the position is behind the text, whose end is then the only boundary left
      have hfront := le_width_of_isBoundary (isBoundary_append front back)
      omega
  refine ⟨_, hok, ⟨⟨isBoundary_append front back, hle⟩, ?_⟩, ?_, ascend_eq_ok_iff.mp hok⟩
  · exact fun k hk => hfirst k hk.1 hk.2
  · exact le_add_three_of_first (Nat.min_le_right _ _) hfirst

/-- What is asked for later is rounded down to a later boundary. -/
theorem RoundsDown.mono {stop stop' : Nat} (h : t.RoundsDown n stop) (h' : t.RoundsDown m stop')
    (hle : n ≤ m) : stop ≤ stop' :=
  h.isGreatest.mono h'.isGreatest fun _ hk => ⟨hk.1, Nat.le_trans hk.2 hle⟩

/-- What is asked for later is rounded up to a later boundary. -/
theorem RoundsUp.mono {stop stop' : Nat} (h : t.RoundsUp n stop) (h' : t.RoundsUp m stop')
    (hle : n ≤ m) : stop ≤ stop' :=
  h'.isLeast.mono h.isLeast fun _ hk => ⟨hk.1, Nat.le_trans hle hk.2⟩

end Text

namespace Cursor

variable {c : Cursor} {front back : Text}

/-! ## Moves -/

/-- Where moves to all positions go to. -/
structure MovesDown (c : Cursor) (stored : Nat → Nat) : Prop where
  /-- It does not depend on where the cursor stood before. -/
  moves : ∀ offset n, { c with offset := offset }.moveTo n
    = .ok (stored n, { c with offset := stored n })
  rounds : ∀ n, c.text.RoundsDown (min n c.text.width) (stored n)
  monotone : Monotone stored
  idempotent : ∀ n, stored (stored n) = stored n
  fixes : ∀ k, c.text.isBoundary k = true → stored k = k

/-- Each move goes to the nearest boundary, wherever it starts. -/
theorem exists_movesDown (c : Cursor) : ∃ stored, c.MovesDown stored := by
  choose stored hok hrounds using c.text.boundaryBelow_rounds
  have hfixes : ∀ k, c.text.isBoundary k = true → stored k = k := by
    intro k hk
    have hself := Text.boundaryBelow_eq_self_iff.mpr hk
    exact Except.ok.inj ((hok k).symm.trans hself)
  refine ⟨stored, ?_, hrounds, ?_, ?_, hfixes⟩
  · intro offset n
    show (c.text.boundaryBelow n >>= _) = _
    rw [hok n]
    rfl
  · intro n m hle
    exact (hrounds n).mono (hrounds m) (by omega)
  · exact fun n => hfixes _ (hrounds n).isGreatest.1.1

/-! ## Peeks -/

/-- What peeks of all lengths show of the rest. -/
structure PeeksUp (c : Cursor) (rest : Text) (shown : Nat → Text) : Prop where
  peeks : ∀ n, c.peek n = .ok (shown n)
  /-- The end asked for is the exact sum, also where that is no word. -/
  rounds : ∀ n, c.text.RoundsUp (min (c.offset + n) c.text.width) (c.offset + (shown n).width)
  begins : ∀ n, shown n <+: rest
  grows : ∀ n m, n ≤ m → shown n <+: shown m
  takes : ∀ n, c.take n = .ok (shown n, { c with offset := c.offset + (shown n).width })
  advances : ∀ n, min n rest.width ≤ (shown n).width

/-- A peek ends where the end asked for is rounded up to. -/
theorem boundaryAbove_of_peek {n : Nat} {taken : Text} (h : c.peek n = .ok taken) :
    c.text.boundaryAbove (saturatingSum c.offset n) = .ok (c.offset + taken.width) := by
  obtain ⟨stop, hok, hslice⟩ := exists_of_bind_eq_ok h
  obtain ⟨-, -, -, -, rfl⟩ := Text.slice?_eq_some_iff.mp (Text.slice_eq_ok_iff.mp hslice)
  exact hok

/-- A peek shows the rest up to the nearest boundary. -/
theorem Between.peek_rounds (h : c.Between front back) (fits : c.text.width < wordLimit) (n : Nat) :
    ∃ taken, c.peek n = .ok taken ∧ taken <+: back ∧
      c.text.RoundsUp (min (c.offset + n) c.text.width) (c.offset + taken.width) := by
  obtain ⟨taken, later, hback, hpeek⟩ := h.peek_ok fits n
  obtain ⟨stop, hok, hrounds⟩ := c.text.boundaryAbove_rounds (saturatingSum c.offset n)
  obtain rfl := Except.ok.inj ((boundaryAbove_of_peek hpeek).symm.trans hok)
  rw [min_saturatingSum fits] at hrounds
  exact ⟨taken, hpeek, ⟨later, hback.symm⟩, hrounds⟩

/-- Peeks of all lengths do, and show more the more is asked for. -/
theorem Between.exists_peeksUp (h : c.Between front back) (fits : c.text.width < wordLimit) :
    ∃ shown, c.PeeksUp back shown := by
  choose shown hpeek hbegins hrounds using h.peek_rounds fits
  refine ⟨shown, hpeek, hrounds, hbegins, ?_, ?_, ?_⟩
  · intro n m hle
    have hstop := (hrounds n).mono (hrounds m) (by omega)
    obtain ⟨later, hback⟩ := hbegins n
    obtain ⟨later', hback'⟩ := hbegins m
    obtain ⟨u, hmore, -⟩ := Text.cut_mono (hback.trans hback'.symm) (by omega)
    exact ⟨u, hmore.symm⟩
  · intro n
    obtain ⟨later, hback⟩ := hbegins n
    exact h.take_of_peek fits hback.symm (hpeek n)
  · intro n
    have hwidth := h.width_eq
    have hreaches := (hrounds n).isLeast.1.2
    omega

/-- **Moves round down and peeks round up**, each to the nearest boundary.  A move goes to the
    greatest boundary that is not beyond the position asked for, or beyond the end of the text; so
    moves keep the order of positions, a second move to where the first one went changes nothing,
    and every boundary is reached.  A peek ends at the least boundary that is not before the end
    asked for, or the end of the text; so a longer peek shows no less, and a take advances by as
    many bytes as it is asked for, if so many remain.  Neither walk leaves the text, and each ends
    at most three bytes from where it starts. -/
theorem moves_round_down_and_peeks_round_up (hplace : c.text.isBoundary c.offset = true)
    (fits : c.text.width < wordLimit) :
    (∃ stored, c.MovesDown stored) ∧
      ∃ rest shown, c.rest = .ok rest ∧ c.PeeksUp rest shown := by
  obtain ⟨front, back, h⟩ := exists_between hplace
  obtain ⟨shown, hshown⟩ := h.exists_peeksUp fits
  exact ⟨c.exists_movesDown, back, shown, h.rest_eq, hshown⟩

/-- Three bytes down to the start of a character of four bytes and three bytes up to its end; the
    largest word as a length shows no more than that. -/
theorem moves_and_peeks_inside_four_bytes :
    Text.isBoundary ['é', '€', '𝄞'] 2 = true ∧ Text.width ['é', '€', '𝄞'] < wordLimit ∧
      (⟨['é', '€', '𝄞'], 2, none, .standard⟩ : Cursor).moveTo 8
        = .ok (5, ⟨['é', '€', '𝄞'], 5, none, .standard⟩) ∧
      Text.RoundsDown ['é', '€', '𝄞'] 8 5 ∧
      (⟨['é', '€', '𝄞'], 2, none, .standard⟩ : Cursor).peek 4 = .ok ['€', '𝄞'] ∧
      Text.RoundsUp ['é', '€', '𝄞'] 6 9 ∧
      (⟨['é', '€', '𝄞'], 2, none, .standard⟩ : Cursor).take (wordLimit - 1)
        = .ok (['€', '𝄞'], ⟨['é', '€', '𝄞'], 9, none, .standard⟩) := by
  have hplace : Text.isBoundary ['é', '€', '𝄞'] 2 = true := by decide
  have fits : Text.width ['é', '€', '𝄞'] < wordLimit := by decide
  obtain ⟨⟨stored, hmoves⟩, rest, shown, hrest, hpeeks⟩ :=
    moves_round_down_and_peeks_round_up (c := ⟨['é', '€', '𝄞'], 2, none, .standard⟩) hplace fits
  have hstored : 5 = stored 8 := congrArg Prod.fst (Except.ok.inj (hmoves.moves 2 8))
  have hrounded : Text.boundaryAbove (['é', '€'] ++ '𝄞' :: []) 6
      = .ok (Text.width ['é', '€'] + '𝄞'.utf8Size) :=
    Text.boundaryAbove_char (by decide) (by decide)
  have hpeek : (⟨['é', '€', '𝄞'], 2, none, .standard⟩ : Cursor).peek 4 = .ok ['€', '𝄞'] := by
    show (Text.boundaryAbove (['é', '€'] ++ '𝄞' :: []) 6 >>= _) = _
    rw [hrounded]
    rfl
  have hshown : shown 4 = ['€', '𝄞'] := Except.ok.inj ((hpeeks.peeks 4).symm.trans hpeek)
  -- nothing of the rest is left to show
  have hall : shown (wordLimit - 1) = ['€', '𝄞'] := by
    obtain rfl : ['€', '𝄞'] = rest := Except.ok.inj hrest
    have hmore := hpeeks.grows 4 (wordLimit - 1) (by decide)
    rw [hshown] at hmore
    exact (hpeeks.begins (wordLimit - 1)).eq_of_length_le hmore.length_le
  have hmove := hmoves.moves 2 8
  have hdown := hmoves.rounds 8
  have hup := hpeeks.rounds 4
  have htake := hpeeks.takes (wordLimit - 1)
  rw [← hstored] at hmove hdown
  rw [hshown] at hup
  rw [hall] at htake
  exact ⟨hplace, fits, hmove, hdown, hpeek, hup, htake⟩

end Cursor

end TextCursor
