import TextCursor.Text

/-! # Boundaries

    A byte position is a boundary of a text exactly when it is the width of a
    beginning of it.  So every position that a text accepts is a way to cut it in
    two, and everything below is stated about cuts `front ++ back`:

    * `splitAt?` finds the cut of a position, and there is only one;
    * a slice is the part between two cuts;
    * `boundaryBelow` and `boundaryAbove` answer for every position, and the
      answer is the nearest cut within the text;
    * the character at a position is the first one behind the cut there. -/

namespace TextCursor

/-- A computation that has met no error goes on with its value. -/
@[simp] theorem ok_bind {ε α β : Type} (a : α) (next : α → Except ε β) :
    ((.ok a : Except ε α) >>= next) = next a := rfl

/-- A computation that ends with a value has met no error on the way. -/
theorem exists_of_bind_eq_ok {ε α β : Type} {first : Except ε α} {next : α → Except ε β} {b : β}
    (h : (first >>= next) = .ok b) : ∃ a, first = .ok a ∧ next a = .ok b := by
  cases first with
  | ok a => exact ⟨a, rfl, h⟩
  | error e => exact nomatch h

namespace Text

/-! ## Widths -/

@[simp] theorem width_nil : width [] = 0 := rfl

@[simp] theorem width_cons (c : Char) (t : Text) :
    width (c :: t) = c.utf8Size + width t := rfl

/-- Widths add up. -/
@[simp] theorem width_append (front back : Text) :
    width (front ++ back) = width front + width back := by
  induction front with
  | nil => simp
  | cons c front ih =>
      show c.utf8Size + width (front ++ back) = c.utf8Size + width front + width back
      rw [ih]
      omega

/-- Only the empty text has no bytes. -/
theorem eq_nil_of_width {t : Text} (h : width t = 0) : t = [] := by
  cases t with
  | nil => rfl
  | cons c t =>
      have := c.utf8Size_pos
      rw [width_cons] at h
      omega

/-! ## Cuts -/

/-- A text is cut at the width of a beginning. -/
theorem splitAt?_append (front back : Text) :
    splitAt? (front ++ back) (width front) = some (front, back) := by
  induction front with
  | nil => simp [splitAt?]
  | cons c front ih =>
      have hpos := c.utf8Size_pos
      obtain ⟨n, hn⟩ : ∃ n, c.utf8Size + width front = n + 1 :=
        ⟨c.utf8Size + width front - 1, by omega⟩
      have hrest : n + 1 - c.utf8Size = width front := by omega
      show splitAt? (c :: (front ++ back)) (c.utf8Size + width front) = _
      rw [hn, splitAt?, if_pos (by omega), hrest, ih]
      rfl

/-- A cut puts the text together again, and stands at the width of its front. -/
theorem eq_of_splitAt? {t : Text} {n : Nat} {front back : Text}
    (h : splitAt? t n = some (front, back)) : t = front ++ back ∧ n = width front := by
  induction t, n using splitAt?.induct generalizing front back with
  | case1 t =>
      rw [splitAt?] at h
      obtain ⟨rfl, rfl⟩ := Prod.mk.inj (Option.some.inj h)
      exact ⟨rfl, rfl⟩
  | case2 n => exact nomatch h
  | case3 c t n hfits ih =>
      rw [splitAt?, if_pos hfits] at h
      obtain ⟨⟨front', back'⟩, hcut, heq⟩ := Option.map_eq_some_iff.mp h
      obtain ⟨rfl, rfl⟩ := Prod.mk.inj heq
      obtain ⟨rfl, hn⟩ := ih hcut
      exact ⟨rfl, by rw [width_cons]; omega⟩
  | case4 c t n hlong =>
      rw [splitAt?, if_neg hlong] at h
      exact nomatch h

/-- A text is split at the width of its front. -/
theorem splitAt?_eq_some_iff {t : Text} {n : Nat} {front back : Text} :
    splitAt? t n = some (front, back) ↔ t = front ++ back ∧ n = width front := by
  constructor
  · exact eq_of_splitAt?
  · rintro ⟨rfl, rfl⟩
    exact splitAt?_append front back

/-- Two cuts at the same position are the same cut. -/
theorem cut_unique {front back front' back' : Text} (h : front ++ back = front' ++ back')
    (hw : width front = width front') : front = front' ∧ back = back' := by
  have hcut := splitAt?_append front back
  rw [h, hw, splitAt?_append] at hcut
  obtain ⟨hf, hb⟩ := Prod.mk.inj (Option.some.inj hcut)
  exact ⟨hf.symm, hb.symm⟩

/-- Of two cuts of a text the one that stands first is the beginning of the other. -/
theorem cut_mono {front back front' back' : Text} (h : front ++ back = front' ++ back')
    (hw : width front ≤ width front') : ∃ u, front' = front ++ u ∧ back = u ++ back' := by
  rcases List.append_eq_append_iff.mp h with ⟨u, hf, hb⟩ | ⟨u, hf, hb⟩
  · exact ⟨u, hf, hb⟩
  · have hu : u = [] := by
      rw [hf, width_append] at hw
      exact eq_nil_of_width (by omega)
    rw [hu, List.append_nil] at hf
    rw [hu, List.nil_append] at hb
    exact ⟨[], by rw [hf, List.append_nil], hb.symm⟩

/-- A boundary is the width of a front. -/
theorem isBoundary_iff {t : Text} {n : Nat} :
    isBoundary t n = true ↔ ∃ front back, t = front ++ back ∧ n = width front := by
  unfold isBoundary
  rw [Option.isSome_iff_exists]
  constructor
  · rintro ⟨⟨front, back⟩, h⟩
    exact ⟨front, back, eq_of_splitAt? h⟩
  · rintro ⟨front, back, h⟩
    exact ⟨(front, back), splitAt?_eq_some_iff.mpr h⟩

/-- The seam of two texts is a boundary. -/
theorem isBoundary_append (front back : Text) :
    isBoundary (front ++ back) (width front) = true :=
  isBoundary_iff.mpr ⟨front, back, rfl, rfl⟩

/-- A boundary of a beginning is one of the whole text. -/
theorem isBoundary_append_of_isBoundary {front : Text} {n : Nat}
    (h : isBoundary front n = true) (back : Text) : isBoundary (front ++ back) n = true := by
  obtain ⟨u, v, rfl, rfl⟩ := isBoundary_iff.mp h
  rw [List.append_assoc]
  exact isBoundary_append u (v ++ back)

theorem isBoundary_zero (t : Text) : isBoundary t 0 = true :=
  isBoundary_append [] t

theorem isBoundary_width (t : Text) : isBoundary t (width t) = true := by
  simpa using isBoundary_append t []

/-- A boundary lies within the text. -/
theorem le_width_of_isBoundary {t : Text} {n : Nat} (h : isBoundary t n = true) :
    n ≤ width t := by
  obtain ⟨front, back, rfl, rfl⟩ := isBoundary_iff.mp h
  rw [width_append]
  omega

/-- Between the two ends of a character there is no boundary. -/
theorem not_isBoundary_inside {front back : Text} {c : Char} {n : Nat}
    (hlow : width front < n) (hhigh : n < width front + c.utf8Size) :
    isBoundary (front ++ c :: back) n = false := by
  rw [Bool.eq_false_iff]
  intro h
  obtain ⟨front', back', heq, rfl⟩ := isBoundary_iff.mp h
  -- the other cut lies behind the character, or before it
  rcases List.append_eq_append_iff.mp heq with ⟨u, rfl, hu⟩ | ⟨u, rfl, -⟩
  · cases u with
    | nil => simp at hlow
    | cons d u =>
        obtain ⟨rfl, -⟩ := List.cons.inj hu
        simp only [width_append, width_cons] at hhigh
        omega
  · rw [width_append] at hlow
    omega

/-! ## Slices -/

/-- A slice is the part between a front and a back.  Its positions are the width of the front, and
    that of the front and the part. -/
theorem slice?_eq_some_iff {t part : Text} {start stop : Nat} :
    slice? t start stop = some part ↔
      ∃ front back, t = front ++ part ++ back ∧ start = width front ∧
        stop = start + width part := by
  constructor
  · intro h
    rw [slice?] at h
    by_cases hle : start ≤ stop
    · rw [if_pos hle] at h
      cases hcut : splitAt? t start with
      | none =>
          rw [hcut] at h
          exact nomatch h
      | some cut =>
          obtain ⟨front, rest⟩ := cut
          rw [hcut] at h
          obtain ⟨⟨inner, back⟩, hinner, hfst⟩ := Option.map_eq_some_iff.mp h
          obtain rfl : inner = part := hfst
          obtain ⟨rfl, hstart⟩ := eq_of_splitAt? hcut
          obtain ⟨rfl, hstop⟩ := eq_of_splitAt? hinner
          exact ⟨front, back, by simp, hstart, by omega⟩
    · rw [if_neg hle] at h
      exact nomatch h
  · rintro ⟨front, back, rfl, rfl, rfl⟩
    rw [slice?, if_pos (by omega), List.append_assoc, splitAt?_append]
    show Option.map Prod.fst (splitAt? (part ++ back) (width front + width part - width front)) = _
    rw [Nat.add_sub_cancel_left, splitAt?_append]
    rfl

/-- The part between a front and a back can be sliced out. -/
theorem slice?_append (front part back : Text) :
    slice? (front ++ part ++ back) (width front) (width front + width part) = some part :=
  slice?_eq_some_iff.mpr ⟨front, back, rfl, rfl, rfl⟩

/-- The checked slice is the slice, where there is one. -/
theorem slice_eq_ok_iff {t part : Text} {start stop : Nat} :
    slice t start stop = .ok part ↔ slice? t start stop = some part := by
  rw [slice]
  cases slice? t start stop <;> simp

/-- It is sliced out without a fault. -/
theorem slice_append (front part back : Text) :
    slice (front ++ part ++ back) (width front) (width front + width part) = .ok part := by
  rw [slice, slice?_append]

theorem before_append (front back : Text) : before (front ++ back) (width front) = .ok front := by
  rw [before, splitAt?_append]

theorem after_append (front back : Text) : after (front ++ back) (width front) = .ok back := by
  rw [after, splitAt?_append]

/-! ## Rounding

    `descend` and `ascend` meet a boundary before they leave the text, because
    both of its ends are boundaries. -/

/-- Walking down ends at the greatest boundary that is not above. -/
theorem descend_ok (t : Text) (n : Nat) :
    ∃ m, descend t n = .ok m ∧ isBoundary t m = true ∧ m ≤ n ∧
      ∀ k, isBoundary t k = true → k ≤ n → k ≤ m := by
  induction n with
  | zero =>
      refine ⟨0, ?_, isBoundary_zero t, Nat.le_refl 0, fun k _ hk => hk⟩
      rw [descend, if_pos (isBoundary_zero t)]
  | succ n ih =>
      by_cases hb : isBoundary t (n + 1) = true
      · exact ⟨n + 1, by rw [descend, if_pos hb], hb, Nat.le_refl _, fun k _ hk => hk⟩
      · obtain ⟨m, hm, hbound, hle, hmax⟩ := ih
        refine ⟨m, by rw [descend, if_neg hb, hm], hbound, by omega, ?_⟩
        intro k hk hkn
        have hne : k ≠ n + 1 := by
          rintro rfl
          exact hb hk
        exact hmax k hk (by omega)

/-- Walking up ends at the least boundary that is not below. -/
theorem ascend_ok {t : Text} {n : Nat} (h : n ≤ width t) :
    ∃ m, ascend t n = .ok m ∧ isBoundary t m = true ∧ n ≤ m ∧
      ∀ k, isBoundary t k = true → n ≤ k → m ≤ k := by
  induction n using ascend.induct t with
  | case1 n hb =>
      exact ⟨n, by rw [ascend, if_pos hb], hb, Nat.le_refl n, fun k _ hk => hk⟩
  | case2 n hb hlt ih =>
      obtain ⟨m, hm, hbound, hle, hmin⟩ := ih hlt
      refine ⟨m, by rw [ascend, if_neg hb, if_pos hlt, hm], hbound, by omega, ?_⟩
      intro k hk hnk
      have hne : k ≠ n := by
        rintro rfl
        exact hb hk
      exact hmin k hk (by omega)
  | case3 n hb hge =>
      obtain rfl : n = width t := by omega
      exact absurd (isBoundary_width t) hb

/-- Every position has a boundary at or below it within the text. -/
theorem boundaryBelow_ok (t : Text) (n : Nat) :
    ∃ front back, t = front ++ back ∧ boundaryBelow t n = .ok (width front) ∧
      width front ≤ n ∧ ∀ k, isBoundary t k = true → k ≤ n → k ≤ width front := by
  obtain ⟨m, hm, hbound, hle, hmax⟩ := descend_ok t (min n (width t))
  obtain ⟨front, back, heq, rfl⟩ := isBoundary_iff.mp hbound
  refine ⟨front, back, heq, hm, by omega, ?_⟩
  intro k hk hkn
  have := le_width_of_isBoundary hk
  exact hmax k hk (by omega)

/-- Every position has a boundary at or above it, the end of the text if it lies beyond. -/
theorem boundaryAbove_ok (t : Text) (n : Nat) :
    ∃ front back, t = front ++ back ∧ boundaryAbove t n = .ok (width front) ∧
      min n (width t) ≤ width front ∧ ∀ k, isBoundary t k = true → n ≤ k → width front ≤ k := by
  obtain ⟨m, hm, hbound, hle, hmin⟩ := ascend_ok (Nat.min_le_right n (width t))
  obtain ⟨front, back, heq, rfl⟩ := isBoundary_iff.mp hbound
  exact ⟨front, back, heq, hm, hle, fun k hk hnk => hmin k hk (by omega)⟩

/-- A cut rounds down to itself. -/
theorem boundaryBelow_width (front back : Text) :
    boundaryBelow (front ++ back) (width front) = .ok (width front) := by
  obtain ⟨front', back', -, hok, hle, hmax⟩ := boundaryBelow_ok (front ++ back) (width front)
  have hge := hmax (width front) (isBoundary_append front back) (Nat.le_refl _)
  rw [hok, Nat.le_antisymm hle hge]

/-- The boundaries are the positions that round down to themselves. -/
theorem boundaryBelow_eq_self_iff {t : Text} {n : Nat} :
    boundaryBelow t n = .ok n ↔ isBoundary t n = true := by
  constructor
  · intro h
    obtain ⟨front, back, rfl, hok, -, -⟩ := boundaryBelow_ok t n
    obtain rfl : n = width front := Except.ok.inj (h.symm.trans hok)
    exact isBoundary_append front back
  · intro h
    obtain ⟨front, back, rfl, rfl⟩ := isBoundary_iff.mp h
    exact boundaryBelow_width front back

/-- A position in a character, or at its end, rounds up to its end. -/
theorem boundaryAbove_char {front back : Text} {c : Char} {n : Nat} (hlow : width front < n)
    (hhigh : n ≤ width front + c.utf8Size) :
    boundaryAbove (front ++ c :: back) n = .ok (width front + c.utf8Size) := by
  have hend : isBoundary (front ++ c :: back) (width front + c.utf8Size) = true := by
    have h := isBoundary_append (front ++ [c]) back
    simpa using h
  obtain ⟨front', back', heq, hok, hmin, hleast⟩ := boundaryAbove_ok (front ++ c :: back) n
  have hle : width front' ≤ width front + c.utf8Size := hleast _ hend hhigh
  rcases Nat.lt_or_eq_of_le hle with hlt | heq'
  · -- a boundary below the end of the character would lie inside it
    have hin : isBoundary (front ++ c :: back) (width front') = true :=
      heq ▸ isBoundary_append front' back'
    have hgt : width front < width front' := by
      simp only [width_append, width_cons] at hmin
      omega
    rw [not_isBoundary_inside hgt hlt] at hin
    exact nomatch hin
  · rw [hok, heq']

/-! ## Behind a front part

    A text that follows another one keeps its boundaries, at positions that are
    greater by the width of what stands before it. -/

variable (front back : Text) (n : Nat)

/-- Behind a front part a text is cut where its rest is. -/
theorem splitAt?_width_add : splitAt? (front ++ back) (width front + n) =
    (splitAt? back n).map fun (u, v) => (front ++ u, v) := by
  cases hcut : splitAt? back n with
  | some cut =>
      obtain ⟨rfl, rfl⟩ := eq_of_splitAt? hcut
      simp only [Option.map_some, splitAt?_eq_some_iff, List.append_assoc, width_append, and_self]
  | none =>
      rw [Option.map_none, Option.eq_none_iff_forall_ne_some]
      rintro ⟨front', v⟩ hsome
      obtain ⟨heq, hn⟩ := eq_of_splitAt? hsome
      -- a cut behind the front part would be a cut of the rest
      obtain ⟨u, rfl, rfl⟩ := cut_mono heq (by omega)
      rw [width_append, Nat.add_left_cancel_iff] at hn
      rw [splitAt?_eq_some_iff.mpr ⟨rfl, hn⟩] at hcut
      exact nomatch hcut

/-- The boundaries behind a front are those of the text behind it. -/
@[simp] theorem isBoundary_width_add :
    isBoundary (front ++ back) (width front + n) = isBoundary back n := by
  simp only [isBoundary, splitAt?_width_add, Option.isSome_map]

@[simp] theorem after_width_add : after (front ++ back) (width front + n) = after back n := by
  rw [after, after, splitAt?_width_add]
  cases splitAt? back n <;> rfl

@[simp] theorem slice_width_add (m : Nat) :
    slice (front ++ back) (width front + n) (width front + m) = slice back n m := by
  have hdiff : width front + m - (width front + n) = m - n := by omega
  simp only [slice, slice?, splitAt?_width_add, hdiff, Nat.add_le_add_iff_left]
  cases splitAt? back n <;> rfl

/-- Walking down from a boundary stays there. -/
theorem descend_of_isBoundary {t : Text} {n : Nat} (h : isBoundary t n = true) :
    descend t n = .ok n := by
  cases n with
  | zero => rw [descend, if_pos h]
  | succ n => rw [descend, if_pos h]

/-- Rounding down does not look back over the seam of two texts. -/
theorem descend_width_add : descend (front ++ back) (width front + n) =
    (descend back n).map (width front + ·) := by
  induction n with
  | zero =>
      rw [Nat.add_zero, descend_of_isBoundary (isBoundary_append front back),
        descend_of_isBoundary (isBoundary_zero back)]
      rfl
  | succ n ih =>
      rw [← Nat.add_assoc, descend, descend, Nat.add_assoc, isBoundary_width_add, ih]
      cases isBoundary back (n + 1) <;> rfl

/-- Rounding up behind a front rounds up the position in the text behind it. -/
theorem ascend_width_add : ascend (front ++ back) (width front + n) =
    (ascend back n).map (width front + ·) := by
  induction n using ascend.induct back with
  | case1 n hb =>
      rw [ascend, isBoundary_width_add, if_pos hb, ascend.eq_def back n, if_pos hb]
      rfl
  | case2 n hb hlt ih =>
      rw [ascend, isBoundary_width_add, if_neg hb, width_append, if_pos (by omega),
        ascend.eq_def back n, if_neg hb, if_pos hlt, Nat.add_assoc, ih]
  | case3 n hb hge =>
      rw [ascend, isBoundary_width_add, if_neg hb, width_append, if_neg (by omega),
        ascend.eq_def back n, if_neg hb, if_neg hge]
      rfl

/-- Behind a front part a text is rounded down where its rest is. -/
theorem boundaryBelow_width_add : boundaryBelow (front ++ back) (width front + n) =
    (boundaryBelow back n).map (width front + ·) := by
  rw [boundaryBelow, width_append, Nat.add_min_add_left, descend_width_add]
  rfl

/-- Behind a front part a text is rounded up where its rest is. -/
theorem boundaryAbove_width_add : boundaryAbove (front ++ back) (width front + n) =
    (boundaryAbove back n).map (width front + ·) := by
  rw [boundaryAbove, width_append, Nat.add_min_add_left, ascend_width_add]
  rfl

/-! ## The character at a position

    It is the head of what follows the cut there: each character of a text is at
    the position where it starts, and no position inside it has one. -/

/-- The character that starts at a byte position, if there is one. -/
def charAt? (t : Text) (n : Nat) : Option Char :=
  (t.splitAt? n).bind fun (_, back) => back.head?

/-- At a cut stands the first character of what follows. -/
theorem charAt?_width : charAt? (front ++ back) (width front) = back.head? := by
  rw [charAt?, splitAt?_append, Option.bind_some]

/-- Where there is no cut there is no character. -/
theorem charAt?_of_not_isBoundary {t : Text} {n : Nat} (h : isBoundary t n = false) :
    charAt? t n = none := by
  rw [isBoundary, Option.isSome_eq_false_iff, Option.isNone_iff_eq_none] at h
  rw [charAt?, h, Option.bind_none]

/-- The character at a position is the one that follows the front of that width. -/
theorem charAt?_eq_some_iff {t : Text} {n : Nat} {d : Char} :
    charAt? t n = some d ↔ ∃ front back, t = front ++ d :: back ∧ n = width front := by
  constructor
  · intro h
    obtain ⟨⟨front, rest⟩, hcut, hhead⟩ := Option.bind_eq_some_iff.mp h
    obtain ⟨rfl, rfl⟩ := eq_of_splitAt? hcut
    obtain ⟨back, rfl⟩ := List.head?_eq_some_iff.mp hhead
    exact ⟨front, back, rfl, rfl⟩
  · rintro ⟨front, back, rfl, rfl⟩
    exact charAt?_width front (d :: back)

/-- Behind a front part stand the characters of the rest. -/
theorem charAt?_width_add : charAt? (front ++ back) (width front + n) = charAt? back n := by
  rw [charAt?, charAt?, splitAt?_width_add]
  cases splitAt? back n <;> rfl

/-- Of the bytes of a character the first one has it, and no other has any. -/
theorem filterMap_charAt?_char (d : Char) (t : Text) :
    (List.range d.utf8Size).filterMap (charAt? (d :: t)) = [d] := by
  obtain ⟨inside, hsize⟩ := Nat.exists_eq_add_of_lt d.utf8Size_pos
  rw [Nat.zero_add] at hsize
  have hfirst : charAt? (d :: t) 0 = some d := charAt?_width [] (d :: t)
  have hinside : ((List.range inside).map Nat.succ).filterMap (charAt? (d :: t)) = [] := by
    rw [List.filterMap_eq_nil_iff]
    intro n hn
    obtain ⟨k, hk, rfl⟩ := List.mem_map.mp hn
    replace hk := List.mem_range.mp hk
    have hoff : isBoundary ([] ++ d :: t) (k + 1) = false := by
      refine not_isBoundary_inside (Nat.succ_pos k) ?_
      rw [width_nil]
      omega
    exact charAt?_of_not_isBoundary hoff
  rw [hsize, List.range_succ_eq_map, List.filterMap_cons_some hfirst, hinside]

/-- The characters at the positions of a text, in order, are the text. -/
theorem filterMap_charAt? (t : Text) : (List.range t.width).filterMap t.charAt? = t := by
  induction t with
  | nil => rfl
  | cons d t ih =>
      have hbehind : charAt? (d :: t) ∘ (d.utf8Size + ·) = charAt? t :=
        funext fun n => charAt?_width_add [d] t n
      rw [width_cons, List.range_add, List.filterMap_append, filterMap_charAt?_char,
        List.filterMap_map, hbehind, ih]
      rfl

end Text

end TextCursor
