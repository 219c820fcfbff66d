import Mathlib.Data.List.Induction
import Mathlib.Data.List.Sort
import TextCursor.Proofs.Boundaries

/-! # Matching brackets

    What the brackets of a text mean, apart from any machine.  `Balanced` is the
    grammar of texts in which all brackets match; a `[` and a `]` are partners
    when the text between them is balanced, and a bracket without a partner is
    unclosed or stray.

    `openings` computes the unclosed brackets of a text with a stack, each as the
    text before it.  The stack of a text is that of the text before its innermost
    unclosed bracket, with that bracket on top (`eq_of_openings_eq_cons`), which is
    what makes going back to a bracket exact. -/

namespace TextCursor.Text

/-- Texts in which all brackets match. -/
inductive Balanced : Text → Prop
  | nil : Balanced []
  | plain {c : Char} {t : Text} (hopen : c ≠ '[') (hclose : c ≠ ']') (ht : Balanced t) :
      Balanced (c :: t)
  | loop {body t : Text} (hbody : Balanced body) (ht : Balanced t) :
      Balanced ('[' :: (body ++ ']' :: t))

/-- One balanced text behind another is balanced. -/
theorem Balanced.append {a b : Text} (ha : Balanced a) (hb : Balanced b) : Balanced (a ++ b) := by
  induction ha with
  | nil => exact hb
  | plain hopen hclose _ ih => exact .plain hopen hclose ih
  | @loop body t hbody _ _ ih =>
      have hloop := Balanced.loop hbody ih
      rw [List.cons_append, List.append_assoc]
      exact hloop

/-- There is a `[` at an offset, and nothing behind it closes it. -/
def IsUnclosed (t : Text) (offset : Nat) : Prop :=
  ∃ front body, t = front ++ '[' :: body ∧ front.width = offset ∧
    ∀ inner rest, body = inner ++ ']' :: rest → ¬ Balanced inner

/-- There is a `]` at an offset, and no `[` before it matches it. -/
def IsStray (t : Text) (offset : Nat) : Prop :=
  ∃ front back, t = front ++ ']' :: back ∧ front.width = offset ∧
    ∀ outer inner, front = outer ++ '[' :: inner → ¬ Balanced inner

/-- The stray `]` that stands before all others. -/
def IsFirstStray (t : Text) (offset : Nat) : Prop :=
  IsStray t offset ∧ ∀ other, IsStray t other → offset ≤ other

/-- Exactly the offsets of the unclosed `[` of a text, in text order. -/
def ListsUnclosed (t : Text) (offsets : List Nat) : Prop :=
  offsets.Pairwise (· < ·) ∧ ∀ offset, offset ∈ offsets ↔ IsUnclosed t offset

/-! ## The stack of open brackets -/

/-- The open brackets behind a text, given what stands before it and the brackets open there. -/
def openingsFrom (front : Text) (opened : List Text) : Text → List Text
  | [] => opened
  | c :: t =>
    openingsFrom (front ++ [c])
      (if c = '[' then front :: opened else if c = ']' then opened.tail else opened) t

/-- The unclosed `[` of a text, each as the text before it, the innermost first. -/
def openings (t : Text) : List Text :=
  openingsFrom [] [] t

/-- The brackets that a text opens are found in two parts, the second from where the first ends. -/
theorem openingsFrom_append (a b : Text) (front : Text) (opened : List Text) :
    openingsFrom front opened (a ++ b)
      = openingsFrom (front ++ a) (openingsFrom front opened a) b := by
  induction a generalizing front opened with
  | nil => rw [List.nil_append, List.append_nil, openingsFrom]
  | cons c a ih =>
      rw [List.cons_append, openingsFrom, ih, openingsFrom, List.append_assoc]
      rfl

/-- One character more opens a bracket, closes one, or does neither. -/
theorem openings_snoc (t : Text) (c : Char) :
    openings (t ++ [c]) = if c = '[' then t :: openings t
      else if c = ']' then (openings t).tail else openings t := by
  rw [openings, openingsFrom_append]
  rfl

@[simp] theorem openings_nil : openings [] = [] := rfl

@[simp] theorem openings_open (t : Text) : openings (t ++ ['[']) = t :: openings t := by
  rw [openings_snoc, if_pos rfl]

@[simp] theorem openings_close (t : Text) : openings (t ++ [']']) = (openings t).tail := by
  rw [openings_snoc, if_neg (by decide), if_pos rfl]

/-- What is no bracket leaves the open brackets open. -/
theorem openings_plain (t : Text) {c : Char} (hopen : c ≠ '[') (hclose : c ≠ ']') :
    openings (t ++ [c]) = openings t := by
  rw [openings_snoc, if_neg hopen, if_neg hclose]

/-- A text in which all brackets match leaves the stack as it was. -/
theorem openings_balanced {inner : Text} (h : Balanced inner) (t : Text) :
    openings (t ++ inner) = openings t := by
  induction h generalizing t with
  | nil => rw [List.append_nil]
  | @plain c inner hopen hclose _ ih =>
      rw [← List.singleton_append, ← List.append_assoc, ih, openings_plain t hopen hclose]
  | @loop body rest _ _ ihbody ihrest =>
      have hsplit : t ++ '[' :: (body ++ ']' :: rest) = t ++ ['['] ++ body ++ [']'] ++ rest := by
        simp
      rw [hsplit, ihrest, openings_close, ihbody, openings_open, List.tail_cons]

/-- Behind a `[` and a balanced text that bracket is on top of the stack. -/
theorem openings_append_open {body : Text} (h : Balanced body) (t : Text) :
    openings (t ++ '[' :: body) = t :: openings t := by
  rw [← List.singleton_append, ← List.append_assoc, openings_balanced h, openings_open]

/-- Behind another text, brackets open at later positions only. -/
theorem openingsFrom_map (x : Text) (front : Text) (opened : List Text) (t : Text) :
    openingsFrom (x ++ front) (opened.map (x ++ ·)) t
      = (openingsFrom front opened t).map (x ++ ·) := by
  induction t generalizing front opened with
  | nil => rfl
  | cons c t ih =>
      rw [openingsFrom, openingsFrom, List.append_assoc, ← ih]
      by_cases hopen : c = '['
      · rw [if_pos hopen, if_pos hopen, List.map_cons]
      by_cases hclose : c = ']'
      · rw [if_neg hopen, if_neg hopen, if_pos hclose, if_pos hclose, List.map_tail]
      · rw [if_neg hopen, if_neg hopen, if_neg hclose, if_neg hclose]

/-- Behind a text that leaves no bracket open the stack is that of the rest alone. -/
theorem openings_append_of_nil {x : Text} (hx : openings x = []) (t : Text) :
    openings (x ++ t) = (openings t).map (x ++ ·) := by
  have hstack : openings (x ++ t) = openingsFrom x (openings x) t := openingsFrom_append x t [] []
  have hmap := openingsFrom_map x [] [] t
  rw [List.append_nil, List.map_nil] at hmap
  rw [hstack, hx, hmap]
  rfl

/-- The innermost unclosed bracket of a text: a balanced text follows it, and the brackets below
    it on the stack are those that were open before it. -/
theorem eq_of_openings_eq_cons {t front : Text} {opened : List Text}
    (h : openings t = front :: opened) :
    ∃ body, t = front ++ '[' :: body ∧ Balanced body ∧ openings front = opened := by
  -- the bracket below a closed one lies in a shorter text, hence the strong induction
  induction hn : t.length using Nat.strongRecOn generalizing t front opened with
  | ind n ih =>
      obtain rfl | ⟨t, c, rfl⟩ := List.eq_nil_or_concat t
      · exact nomatch h
      rw [List.concat_eq_append] at h hn ⊢
      have hshort : t.length < n := by
        rw [← hn, List.length_append]
        exact Nat.lt_succ_self _
      by_cases hopen : c = '['
      · subst hopen
        rw [openings_open] at h
        obtain ⟨rfl, rfl⟩ := List.cons.inj h
        exact ⟨[], rfl, .nil, rfl⟩
      by_cases hclose : c = ']'
      · subst hclose
        rw [openings_close] at h
        cases hstack : openings t with
        | nil =>
            rw [hstack] at h
            exact nomatch h
        | cons inner outer =>
            rw [hstack, List.tail_cons] at h
            obtain ⟨body, rfl, hbody, houter⟩ := ih _ hshort hstack rfl
            have hinner : inner.length < n := by
              rw [List.length_append] at hshort
              omega
            obtain ⟨before, rfl, hbefore, hopened⟩ := ih _ hinner (houter.trans h) rfl
            refine ⟨before ++ '[' :: (body ++ ']' :: []), by simp, ?_, hopened⟩
            exact hbefore.append (.loop hbody .nil)
      · rw [openings_plain t hopen hclose] at h
        obtain ⟨body, rfl, hbody, hopened⟩ := ih _ hshort h rfl
        exact ⟨body ++ [c], by simp, hbody.append (.plain hopen hclose .nil), hopened⟩

/-- The stack is empty when no bracket of the text is followed by a balanced text only. -/
theorem openings_eq_nil_iff {t : Text} :
    openings t = [] ↔ ∀ outer inner, t = outer ++ '[' :: inner → ¬ Balanced inner := by
  constructor
  · rintro hnil outer inner rfl hinner
    rw [openings_append_open hinner outer] at hnil
    exact nomatch hnil
  · intro hnone
    cases hstack : openings t with
    | nil => rfl
    | cons front opened =>
        obtain ⟨body, heq, hbody, -⟩ := eq_of_openings_eq_cons hstack
        exact absurd hbody (hnone front body heq)

/-! ## What is on the stack -/

/-- An open bracket carries the stack that stood before it. -/
theorem suffix_of_mem_openings {t front : Text} (h : front ∈ openings t) :
    front :: openings front <:+ openings t := by
  induction hstack : openings t generalizing t with
  | nil =>
      rw [hstack] at h
      exact nomatch h
  | cons top opened ih =>
      obtain ⟨body, -, -, htop⟩ := eq_of_openings_eq_cons hstack
      rw [hstack] at h
      rcases List.mem_cons.mp h with rfl | hmem
      · exact ⟨[], by rw [htop, List.nil_append]⟩
      · rw [← htop] at hmem
        exact (ih hmem htop).trans (List.suffix_cons top opened)

/-- Fewer brackets are open before an open bracket than behind it. -/
theorem length_openings_lt {t front : Text} (h : front ∈ openings t) :
    (openings front).length < (openings t).length := by
  have := (suffix_of_mem_openings h).length_le
  rw [List.length_cons] at this
  omega

/-- An open bracket is a bracket of the text. -/
theorem exists_of_mem_openings {t front : Text} (h : front ∈ openings t) :
    ∃ body, t = front ++ '[' :: body := by
  induction hstack : openings t generalizing t with
  | nil =>
      rw [hstack] at h
      exact nomatch h
  | cons top opened ih =>
      obtain ⟨body, heq, -, htop⟩ := eq_of_openings_eq_cons hstack
      rw [hstack] at h
      rcases List.mem_cons.mp h with rfl | hmem
      · exact ⟨body, heq⟩
      · rw [← htop] at hmem
        obtain ⟨before, rfl⟩ := ih hmem htop
        exact ⟨before ++ '[' :: body, by rw [heq, List.append_assoc]; rfl⟩

/-- Reading on opens no bracket that stands before. -/
theorem mem_openings_of_append {a b front : Text} (h : front ∈ openings (a ++ b))
    (hlt : front.length < a.length) : front ∈ openings a := by
  induction b using List.reverseRecOn with
  | nil => rwa [List.append_nil] at h
  | append_singleton b c ih =>
      apply ih
      rw [← List.append_assoc, openings_snoc] at h
      by_cases hopen : c = '['
      · rw [if_pos hopen] at h
        rcases List.mem_cons.mp h with rfl | hmem
        · rw [List.length_append] at hlt
          omega
        · exact hmem
      rw [if_neg hopen] at h
      by_cases hclose : c = ']'
      · rw [if_pos hclose] at h
        exact List.mem_of_mem_tail h
      · rwa [if_neg hclose] at h

/-- The stack holds exactly the brackets that nothing behind them closes. -/
theorem mem_openings_iff {t front : Text} :
    front ∈ openings t ↔ ∃ body, t = front ++ '[' :: body ∧
      ∀ inner rest, body = inner ++ ']' :: rest → ¬ Balanced inner := by
  constructor
  · intro h
    obtain ⟨body, rfl⟩ := exists_of_mem_openings h
    refine ⟨body, rfl, ?_⟩
    rintro inner rest rfl hinner
    have hsplit : front ++ '[' :: (inner ++ ']' :: rest)
        = front ++ '[' :: inner ++ [']'] ++ rest := by
      simp
    rw [hsplit] at h
    have hmem := mem_openings_of_append h (by simp)
    rw [openings_close, openings_append_open hinner, List.tail_cons] at hmem
    exact absurd (length_openings_lt hmem) (Nat.lt_irrefl _)
  · rintro ⟨body, rfl, hnone⟩
    induction body using List.reverseRecOn with
    | nil => rw [openings_open]; exact List.mem_cons_self
    | append_singleton body c ih =>
        have hmem := ih fun inner rest heq => hnone inner (rest ++ [c]) (by rw [heq]; simp)
        rw [← List.cons_append, ← List.append_assoc, openings_snoc]
        by_cases hopen : c = '['
        · rw [if_pos hopen]
          exact List.mem_cons_of_mem _ hmem
        rw [if_neg hopen]
        by_cases hclose : c = ']'
        · rw [if_pos hclose]
          cases hstack : openings (front ++ '[' :: body) with
          | nil =>
              rw [hstack] at hmem
              exact nomatch hmem
          | cons top opened =>
              rw [hstack] at hmem
              rcases List.mem_cons.mp hmem with rfl | hin
              · obtain ⟨body', heq, hbody', -⟩ := eq_of_openings_eq_cons hstack
                have hsame : body = body' := (List.cons.inj (List.append_cancel_left heq)).2
                exact absurd (hsame ▸ hbody') (hnone body [] (by rw [hclose]))
              · exact hin
        · rw [if_neg hclose]
          exact hmem

/-- From the inside out the open brackets stand further and further to the left. -/
theorem pairwise_openings (t : Text) :
    (openings t).Pairwise fun inner outer => outer.width < inner.width := by
  induction hstack : openings t generalizing t with
  | nil => exact List.Pairwise.nil
  | cons top opened ih =>
      obtain ⟨body, -, -, htop⟩ := eq_of_openings_eq_cons hstack
      refine List.Pairwise.cons ?_ (ih top htop)
      intro outer hmem
      rw [← htop] at hmem
      obtain ⟨before, rfl⟩ := exists_of_mem_openings hmem
      rw [width_append, width_cons]
      have := Char.utf8Size_pos '['
      omega

/-- The stack, read from the bottom, lists the unclosed brackets. -/
theorem listsUnclosed_openings (t : Text) :
    ListsUnclosed t ((openings t).map width).reverse := by
  constructor
  · rw [List.pairwise_reverse, List.pairwise_map]
    exact pairwise_openings t
  · intro offset
    rw [List.mem_reverse, List.mem_map]
    constructor
    · rintro ⟨front, hmem, rfl⟩
      obtain ⟨body, heq, hnone⟩ := mem_openings_iff.mp hmem
      exact ⟨front, body, heq, rfl, hnone⟩
    · rintro ⟨front, body, heq, rfl, hnone⟩
      exact ⟨front, mem_openings_iff.mpr ⟨body, heq, hnone⟩, rfl⟩

/-- There is only one list of the unclosed brackets. -/
theorem ListsUnclosed.unique {t : Text} {as bs : List Nat} (ha : ListsUnclosed t as)
    (hb : ListsUnclosed t bs) : as = bs :=
  List.Pairwise.eq_of_mem_iff ha.1 hb.1 fun o => (ha.2 o).trans (hb.2 o).symm

/-! ## Brackets of a balanced text -/

namespace Balanced

variable {t front back : Text}

/-- A text in which all brackets match leaves none open. -/
theorem openings_eq_nil (h : Balanced t) : openings t = [] :=
  openings_balanced h []

/-- Where all brackets match, every `[` is closed. -/
theorem exists_close (h : Balanced (front ++ '[' :: back)) :
    ∃ body rest, back = body ++ ']' :: rest ∧ Balanced body := by
  by_contra hnone
  have hmem : front ∈ openings (front ++ '[' :: back) :=
    mem_openings_iff.mpr ⟨back, rfl, fun body rest heq hbody => hnone ⟨body, rest, heq, hbody⟩⟩
  rw [h.openings_eq_nil] at hmem
  exact List.not_mem_nil hmem

/-- Where all brackets match, every `]` closes one. -/
theorem exists_open (h : Balanced t) (ht : t = front ++ ']' :: back) :
    ∃ before body, front = before ++ '[' :: body ∧ Balanced body := by
  induction h generalizing front back with
  | nil => exact absurd ht (by simp)
  | @plain c t hopen hclose _ ih =>
      cases front with
      | nil => exact absurd (List.cons.inj ht).1 hclose
      | cons d front =>
          obtain ⟨rfl, hrest⟩ := List.cons.inj ht
          obtain ⟨before, body, rfl, hbody⟩ := ih hrest
          exact ⟨c :: before, body, rfl, hbody⟩
  | @loop inner t hinner _ ihinner iht =>
      cases front with
      | nil => exact absurd (List.cons.inj ht).1 (by decide)
      | cons d front =>
          obtain ⟨rfl, hrest⟩ := List.cons.inj ht
          -- the `]` stands inside the loop, ends it, or stands behind it
          rcases List.append_eq_append_iff.mp hrest with ⟨u, rfl, hu⟩ | ⟨u, rfl, hu⟩
          · cases u with
            | nil => exact ⟨[], inner, by simp, hinner⟩
            | cons e u =>
                obtain ⟨rfl, hbehind⟩ := List.cons.inj hu
                obtain ⟨before, body, rfl, hbody⟩ := iht hbehind
                exact ⟨'[' :: (inner ++ ']' :: before), body, by simp, hbody⟩
          · cases u with
            | nil =>
                rw [List.append_nil] at hinner
                exact ⟨[], front, rfl, hinner⟩
            | cons e u =>
                obtain ⟨rfl, -⟩ := List.cons.inj hu
                obtain ⟨before, body, rfl, hbody⟩ := ihinner rfl
                exact ⟨'[' :: before, body, rfl, hbody⟩

/-- Where all brackets match, one is open before every `]`. -/
theorem openings_ne_nil (h : Balanced (front ++ ']' :: back)) : openings front ≠ [] := by
  obtain ⟨before, body, rfl, hbody⟩ := h.exists_open rfl
  rw [openings_append_open hbody]
  exact List.cons_ne_nil _ _

end Balanced

/-! ## Stray brackets -/

/-- A `]` without a `[` stays one, whatever comes behind it. -/
theorem IsStray.append {a : Text} {offset : Nat} (h : IsStray a offset) (b : Text) :
    IsStray (a ++ b) offset := by
  obtain ⟨front, back, rfl, hwidth, hnone⟩ := h
  exact ⟨front, back ++ b, by simp, hwidth, hnone⟩

/-- Whether a `]` is stray is decided by what stands before it. -/
theorem IsStray.of_append {a b : Text} {offset : Nat} (h : IsStray (a ++ b) offset)
    (hlt : offset < a.width) : IsStray a offset := by
  obtain ⟨front, back, heq, rfl, hnone⟩ := h
  obtain ⟨u, rfl, hback⟩ := cut_mono heq.symm (Nat.le_of_lt hlt)
  cases u with
  | nil => simp at hlt
  | cons c u =>
      obtain ⟨rfl, -⟩ := List.cons.inj hback
      exact ⟨front, u, rfl, rfl, hnone⟩

/-- A character read on is stray when it is a `]` and no bracket is open. -/
theorem isStray_snoc_iff {t : Text} {c : Char} {offset : Nat} :
    IsStray (t ++ [c]) offset ↔
      IsStray t offset ∨ (c = ']' ∧ offset = t.width ∧ openings t = []) := by
  constructor
  · intro h
    rcases Nat.lt_or_ge offset t.width with hlt | hge
    · exact Or.inl (h.of_append hlt)
    · obtain ⟨front, back, heq, rfl, hnone⟩ := h
      obtain ⟨u, rfl, hu⟩ := cut_mono heq hge
      cases u with
      | nil =>
          obtain ⟨rfl, -⟩ := List.cons.inj hu
          rw [List.append_nil] at hnone ⊢
          exact Or.inr ⟨rfl, rfl, openings_eq_nil_iff.mpr hnone⟩
      | cons d u =>
          have hlength := congrArg List.length hu
          simp at hlength
  · rintro (h | ⟨rfl, rfl, hnil⟩)
    · exact h.append [c]
    · exact ⟨t, [], rfl, rfl, openings_eq_nil_iff.mp hnil⟩

/-- The first `]` that is met while no bracket is open is the first stray one. -/
theorem isFirstStray_append {front back : Text} (hnone : ∀ offset, ¬ IsStray front offset)
    (hnil : openings front = []) : IsFirstStray (front ++ ']' :: back) front.width := by
  constructor
  · exact ⟨front, back, rfl, rfl, openings_eq_nil_iff.mp hnil⟩
  · intro other hother
    rcases Nat.lt_or_ge other front.width with hlt | hge
    · exact absurd (hother.of_append hlt) (hnone other)
    · exact hge

/-- There is at most one first `]` without a `[`. -/
theorem IsFirstStray.unique {t : Text} {a b : Nat} (ha : IsFirstStray t a)
    (hb : IsFirstStray t b) : a = b :=
  Nat.le_antisymm (ha.2 b hb.1) (hb.2 a ha.1)

end TextCursor.Text
