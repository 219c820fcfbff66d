import TextCursor.Proofs.CursorSafety

/-! # Ill-formed spans

    A span is ill-formed for a haystack when its ends are out of order, off the
    haystack or inside a character, or when it starts away from 0 although the
    attempt is anchored.  Such a span is meant to count as no match.

    The route goes through what an attempt looks at, `consumedBy_isSome_iff`: the
    order of the two ends, the start when anchored, and whether the *end* is a
    boundary, because the text consumed is sliced there.  What a seek consumes
    begins at the offset, so the start of its span is only compared with the end.

    Hence every ill-formed span is refused, by all six ways to match and without
    a change of the cursor, with one exception: a seek accepts a span that is
    ill-formed for no other reason than that it starts inside a character. -/

namespace TextCursor

namespace Span

/-- Why a matcher may not report a span for a haystack. -/
inductive IllFormed (haystack : Text) (anchored : Bool) (found : Span) : Prop
  | reversed (h : found.stop < found.start)
  | pastEnd (h : haystack.width < found.stop)
  | startInside (h : haystack.isBoundary found.start = false)
  | stopInside (h : haystack.isBoundary found.stop = false)
  | offAnchor (h : anchored = true) (hstart : found.start ≠ 0)

/-- A span whose start alone is wrong: inside a character, in front of an end that may stand. -/
structure StartsInside (haystack : Text) (found : Span) : Prop where
  ordered : found.start ≤ found.stop
  start_inside : haystack.isBoundary found.start = false
  stop_boundary : haystack.isBoundary found.stop = true

end Span

namespace Cursor

variable {c : Cursor} {text front back : Text} {found : Span} {anchored : Bool}

/-- All that an attempt asks of a span. -/
theorem Between.consumedBy_isSome_iff (h : c.Between front back)
    (fits : c.text.width < wordLimit) :
    (c.consumedBy found anchored).isSome = true ↔
      (anchored = true → found.start = 0) ∧ found.start ≤ found.stop ∧
        back.isBoundary found.stop = true := by
  simp only [Option.isSome_iff_exists, h.consumedBy_eq_some_iff fits, Text.isBoundary_iff]
  constructor
  · rintro ⟨t, hanchor, hle, hstop, rest, hback⟩
    exact ⟨hanchor, hle, t, rest, hback, hstop⟩
  · rintro ⟨hanchor, hle, t, rest, hback, hstop⟩
    exact ⟨t, hanchor, hle, hstop, rest, hback⟩

/-- A span that is ill-formed consumes nothing, unless a seek starts inside a character. -/
theorem Between.consumedBy_eq_none (h : c.Between front back) (fits : c.text.width < wordLimit)
    (hill : found.IllFormed back anchored)
    (hstart : anchored = true ∨ ¬ found.StartsInside back) :
    c.consumedBy found anchored = none := by
  rw [← Option.not_isSome_iff_eq_none, h.consumedBy_isSome_iff fits]
  rintro ⟨hanchor, hle, hstop⟩
  cases hill with
  | reversed hlt => omega
  | pastEnd hlt =>
      have := Text.le_width_of_isBoundary hstop
      omega
  | stopInside hinside => simp [hstop] at hinside
  | offAnchor ha hne => exact hne (hanchor ha)
  | startInside hinside =>
      rcases hstart with ha | hnot
      · -- an anchored span starts at 0, which is a boundary of every text
        rw [hanchor ha, Text.isBoundary_zero] at hinside
        exact nomatch hinside
      · exact hnot ⟨hle, hinside, hstop⟩

/-- A seek consumes through the end of a span that starts inside a character. -/
theorem Between.consumedBy_of_startsInside (h : c.Between front back)
    (fits : c.text.width < wordLimit) (hinside : found.StartsInside back) :
    ∃ t rest, back = t ++ rest ∧ t.width = found.stop ∧ c.consumedBy found false = some t := by
  obtain ⟨t, rest, hback, hstop⟩ := Text.isBoundary_iff.mp hinside.stop_boundary
  refine ⟨t, rest, hback, hstop.symm, (h.consumedBy_eq_some_iff fits).mpr ?_⟩
  exact ⟨by simp, hinside.ordered, hstop, rest, hback⟩

/-- **Ill-formed spans count as no match**: whatever the matcher, the way to match answers nothing
    and leaves the cursor as it was.  Only a seek does not notice that a span starts inside a
    character, and consumes the rest through the end of that span. -/
theorem ill_formed_spans_refused (h : c.Reached text) (fits : text.width < wordLimit) :
    ∃ rest, c.rest = .ok rest ∧ ∀ (m : Matcher) (mode : MatchMode) (found : Span),
      m.find rest mode.anchored = some found → found.IllFormed rest mode.anchored →
        (mode.anchored = true ∨ ¬ found.StartsInside rest →
          c.perform (.attempt mode m) =
            .ok ⟨.nothing, c, [.brokenContract found mode.anchored]⟩) ∧
        (mode.anchored = false → found.StartsInside rest →
          ∃ t tail, rest = t ++ tail ∧ t.width = found.stop ∧
            c.perform (.attempt mode m) = .ok ⟨mode.reply (some t),
              { c with
                offset := if mode.advances then c.offset + t.width else c.offset,
                latest := some t },
              [.matched c.offset (c.offset + t.width) false mode.advances t]⟩) := by
  obtain ⟨front, back, hb, fits'⟩ := h.between fits
  refine ⟨back, hb.rest_eq, ?_⟩
  intro m mode found hfind hill
  constructor
  · intro hstart
    have hnone := hb.consumedBy_eq_none fits' hill hstart
    rw [perform, attemptBy_eq, hb.attempt_of_consumedBy_none hfind hnone]
    cases mode <;> rfl
  · intro hseek hinside
    obtain ⟨t, tail, hback, hwidth, hsome⟩ := hb.consumedBy_of_startsInside fits' hinside
    refine ⟨t, tail, hback, hwidth, ?_⟩
    rw [hseek] at hfind
    rw [perform, attemptBy_eq, hseek, hb.attempt_of_consumedBy_some fits' hfind hsome]
    rfl

/-- A span that ends inside a character is refused by all six ways to match. -/
theorem ill_formed_span_refused_inside_a_char :
    (Cursor.ofText ['é', 'a'] Window.standard).Reached ['é', 'a'] ∧
      Text.width ['é', 'a'] < wordLimit ∧
      ∀ mode : MatchMode, (Cursor.ofText ['é', 'a'] Window.standard).perform
          (.attempt mode (Matcher.fixed ⟨0, 1⟩)) =
        .ok ⟨.nothing, Cursor.ofText ['é', 'a'] Window.standard,
          [.brokenContract ⟨0, 1⟩ mode.anchored]⟩ := by
  refine ⟨.start _, by decide, ?_⟩
  intro mode
  obtain ⟨rest, hrest, hall⟩ := ill_formed_spans_refused (.start Window.standard)
    (by decide : Text.width ['é', 'a'] < wordLimit)
  obtain rfl : ['é', 'a'] = rest := Except.ok.inj hrest
  have hstop : Text.isBoundary ['é', 'a'] 1 = false := by decide
  refine (hall (Matcher.fixed ⟨0, 1⟩) mode ⟨0, 1⟩ rfl (.stopInside hstop)).1 (.inr ?_)
  intro hinside
  exact nomatch hstop.symm.trans hinside.stop_boundary

/-- Not every ill-formed span counts as no match: a seek accepts one that starts inside the only
    character of a text. -/
theorem not_all_ill_formed_spans_refused :
    ¬ ∀ (text : Text) (c : Cursor), c.Reached text → text.width < wordLimit →
      ∀ (rest : Text) (m : Matcher) (mode : MatchMode) (found : Span), c.rest = .ok rest →
        m.find rest mode.anchored = some found → found.IllFormed rest mode.anchored →
          ∃ events, c.perform (.attempt mode m) = .ok ⟨.nothing, c, events⟩ := by
  intro hall
  obtain ⟨events, hok⟩ := hall ['é'] (Cursor.ofText ['é'] Window.standard) (.start _) (by decide)
    ['é'] (Matcher.fixed ⟨1, 2⟩) .scanUntil ⟨1, 2⟩ rfl rfl (.startInside (by decide))
  have hmatched : (Cursor.ofText ['é'] Window.standard).perform
      (.attempt .scanUntil (Matcher.fixed ⟨1, 2⟩)) =
        .ok ⟨.text ['é'], ⟨['é'], 2, some ['é'], Window.standard⟩,
          [.matched 0 2 false true ['é']]⟩ := by rfl
  rw [hmatched] at hok
  simp at hok

end Cursor

end TextCursor
