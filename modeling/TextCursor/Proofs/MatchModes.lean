import TextCursor.Proofs.IllFormedSpans

/-! # One primitive in six ways

    The six ways to match ask one question: what does the matcher report for the
    rest, and does the cursor admit it there?  `Cursor.Admits` says what is asked of
    a span, in terms of the whole text, and `Between.admits_iff` that nothing else
    is looked at.  `Cursor.ComesTo` says what the answer means for each of the
    three kinds: who scans moves, who checks stays, and who skips moves as a scan
    does but answers with a length.

    A check leaves nothing behind that an attempt looks at, so asking again is
    answered as before, however often (`performAll_replicate`). -/

namespace TextCursor

namespace MatchMode

/-- Moves, and answers with a text. -/
def scanning : Bool → MatchMode
  | true => scan
  | false => scanUntil

/-- Stays, and answers with a text. -/
def checking : Bool → MatchMode
  | true => check
  | false => checkUntil

/-- Moves, and answers with a length. -/
def skipping : Bool → MatchMode
  | true => skip
  | false => skipUntil

@[simp] theorem anchored_scanning (a : Bool) : (scanning a).anchored = a := by cases a <;> rfl

@[simp] theorem anchored_checking (a : Bool) : (checking a).anchored = a := by cases a <;> rfl

@[simp] theorem anchored_skipping (a : Bool) : (skipping a).anchored = a := by cases a <;> rfl

@[simp] theorem advances_scanning (a : Bool) : (scanning a).advances = true := by cases a <;> rfl

@[simp] theorem advances_checking (a : Bool) : (checking a).advances = false := by cases a <;> rfl

@[simp] theorem advances_skipping (a : Bool) : (skipping a).advances = true := by cases a <;> rfl

@[simp] theorem reply_scanning (a : Bool) : (scanning a).reply = Reply.ofText? := by
  cases a <;> rfl

@[simp] theorem reply_checking (a : Bool) : (checking a).reply = Reply.ofText? := by
  cases a <;> rfl

@[simp] theorem reply_skipping (a : Bool) : (skipping a).reply = Reply.ofWidth? := by
  cases a <;> rfl

end MatchMode

namespace Cursor

variable {c : Cursor} {front back : Text} {m : Matcher} {anchored : Bool} {found : Span}

/-- What a cursor asks of a span that is reported for its rest: the ends are in order, it starts
    where the cursor stands if the attempt is anchored, and it ends at a boundary of the text. -/
structure Admits (c : Cursor) (anchored : Bool) (found : Span) : Prop where
  ordered : found.start ≤ found.stop
  at_start : anchored = true → found.start = 0
  is_word : c.offset + found.stop < wordLimit
  within : c.offset + found.stop ≤ c.text.width
  boundary : c.text.isBoundary (c.offset + found.stop) = true

/-- What the three kinds of attempts come to, given the text consumed and the cursor that a scan
    leaves. -/
structure ComesTo (c : Cursor) (m : Matcher) (anchored : Bool) (consumed : Option Text)
    (after : Cursor) : Prop where
  scan : ∃ event, c.perform (.attempt (.scanning anchored) m) =
    .ok ⟨.ofText? consumed, after, [event]⟩
  check : ∃ event, c.perform (.attempt (.checking anchored) m) =
    .ok ⟨.ofText? consumed, { after with offset := c.offset }, [event]⟩
  skip : ∃ event, c.perform (.attempt (.skipping anchored) m) =
    .ok ⟨.ofWidth? consumed, after, [event]⟩

/-! ## The primitive -/

namespace Between

/-- A span is admitted exactly if it consumes something, be it the empty text. -/
theorem admits_iff (h : c.Between front back) (fits : c.text.width < wordLimit) :
    c.Admits anchored found ↔ (c.consumedBy found anchored).isSome = true := by
  have hbound : c.text.isBoundary (c.offset + found.stop) = back.isBoundary found.stop := by
    rw [h.text_eq, h.offset_eq, Text.isBoundary_width_add]
  rw [h.consumedBy_isSome_iff fits]
  constructor
  · intro hadmits
    exact ⟨hadmits.at_start, hadmits.ordered, hbound ▸ hadmits.boundary⟩
  · rintro ⟨hanchor, hle, hstop⟩
    have hwithin := Text.le_width_of_isBoundary (hbound.trans hstop)
    exact ⟨hle, hanchor, by omega, hwithin, hbound.trans hstop⟩

/-- What is consumed stands in the text from the offset to the end of the span. -/
theorem slice?_of_consumedBy (h : c.Between front back) (fits : c.text.width < wordLimit)
    {t : Text} (hcons : c.consumedBy found anchored = some t) :
    found.stop = t.width ∧ c.text.slice? c.offset (c.offset + found.stop) = some t := by
  obtain ⟨-, -, hstop, rest, rfl⟩ := (h.consumedBy_eq_some_iff fits).mp hcons
  refine ⟨hstop, Text.slice?_eq_some_iff.mpr ⟨front, rest, ?_, h.offset_eq, by rw [hstop]⟩⟩
  rw [h.text_eq, List.append_assoc]

/-- What a span consumes is the answer and the latest match, and is passed if the mode advances. -/
theorem perform_of_consumedBy_some (h : c.Between front back) (fits : c.text.width < wordLimit)
    {mode : MatchMode} {t : Text} (hfind : m.find back mode.anchored = some found)
    (hcons : c.consumedBy found mode.anchored = some t) :
    c.perform (.attempt mode m) = .ok ⟨mode.reply (some t),
      { c with offset := if mode.advances then c.offset + t.width else c.offset, latest := some t },
      [.matched c.offset (c.offset + t.width) mode.anchored mode.advances t]⟩ := by
  rw [perform, attemptBy_eq, h.attempt_of_consumedBy_some fits hfind hcons]
  rfl

/-- Where the matcher finds nothing, the cursor stays as it is. -/
theorem perform_of_find_none (h : c.Between front back) {mode : MatchMode}
    (hfind : m.find back mode.anchored = none) :
    c.perform (.attempt mode m) =
      .ok ⟨.nothing, c, [.noMatch c.offset mode.anchored mode.advances]⟩ := by
  rw [perform, attemptBy_eq, h.attempt_of_find_none hfind]
  cases mode <;> rfl

/-- Where the matcher breaks its contract, the cursor stays as it is too. -/
theorem perform_of_consumedBy_none (h : c.Between front back) {mode : MatchMode}
    (hfind : m.find back mode.anchored = some found)
    (hcons : c.consumedBy found mode.anchored = none) :
    c.perform (.attempt mode m) = .ok ⟨.nothing, c, [.brokenContract found mode.anchored]⟩ := by
  rw [perform, attemptBy_eq, h.attempt_of_consumedBy_none hfind hcons]
  cases mode <;> rfl

/-- An attempt that consumes nothing leaves the cursor as it is. -/
theorem perform_of_consumes_none (h : c.Between front back) {mode : MatchMode}
    (hnone : ∀ found, m.find back mode.anchored = some found →
      c.consumedBy found mode.anchored = none) :
    ∃ event : AttemptEvent, c.perform (.attempt mode m) = .ok ⟨.nothing, c, [event]⟩ := by
  cases hfind : m.find back mode.anchored with
  | none => exact ⟨_, h.perform_of_find_none hfind⟩
  | some found => exact ⟨_, h.perform_of_consumedBy_none hfind (hnone found hfind)⟩

/-- A span that is admitted is consumed up to its end, whichever kind of attempt it is. -/
theorem comesTo_of_admits (h : c.Between front back) (fits : c.text.width < wordLimit)
    (hfind : m.find back anchored = some found) (hadmits : c.Admits anchored found) :
    ∃ t, found.stop = t.width ∧ c.text.slice? c.offset (c.offset + found.stop) = some t ∧
      c.ComesTo m anchored (some t)
        { c with offset := c.offset + found.stop, latest := some t } := by
  obtain ⟨t, hcons⟩ := Option.isSome_iff_exists.mp ((h.admits_iff fits).mp hadmits)
  obtain ⟨hstop, hslice⟩ := h.slice?_of_consumedBy fits hcons
  have hperform : ∀ mode : MatchMode, mode.anchored = anchored →
      c.perform (.attempt mode m) = .ok ⟨mode.reply (some t),
        { c with offset := if mode.advances then c.offset + found.stop else c.offset,
                 latest := some t },
        [.matched c.offset (c.offset + found.stop) anchored mode.advances t]⟩ := by
    rintro mode rfl
    rw [hstop]
    exact h.perform_of_consumedBy_some fits hfind hcons
  have hscan := hperform (.scanning anchored) (by simp)
  have hcheck := hperform (.checking anchored) (by simp)
  have hskip := hperform (.skipping anchored) (by simp)
  simp only [MatchMode.reply_scanning, MatchMode.advances_scanning, if_true] at hscan
  simp only [MatchMode.reply_checking, MatchMode.advances_checking, Bool.false_eq_true, if_false]
    at hcheck
  simp only [MatchMode.reply_skipping, MatchMode.advances_skipping, if_true] at hskip
  exact ⟨t, hstop, hslice, ⟨_, hscan⟩, ⟨_, hcheck⟩, ⟨_, hskip⟩⟩

/-- Where no span is admitted, no kind of attempt consumes anything. -/
theorem comesTo_of_not_admits (h : c.Between front back) (fits : c.text.width < wordLimit)
    (hnone : ∀ found, m.find back anchored = some found → ¬ c.Admits anchored found) :
    c.ComesTo m anchored none c := by
  have hperform : ∀ mode : MatchMode, mode.anchored = anchored →
      ∃ event : AttemptEvent, c.perform (.attempt mode m) = .ok ⟨.nothing, c, [event]⟩ := by
    rintro mode rfl
    refine h.perform_of_consumes_none fun found hfind => ?_
    rw [← Option.not_isSome_iff_eq_none, ← h.admits_iff fits]
    exact hnone found hfind
  exact ⟨hperform _ (by simp), hperform _ (by simp), hperform _ (by simp)⟩

end Between

/-! ## Checks -/

/-- A check is answered, and behind it an attempt with the same matcher, anchored alike, comes to
    what it would have come to at once. -/
theorem Between.perform_check (h : c.Between front back) (fits : c.text.width < wordLimit)
    (m : Matcher) (anchored : Bool) :
    ∃ q, c.perform (.attempt (.checking anchored) m) = .ok q ∧
      ∀ mode : MatchMode, mode.anchored = anchored →
        q.cursor.perform (.attempt mode m) = c.perform (.attempt mode m) := by
  by_cases hmatch : ∃ found t, m.find back anchored = some found ∧
      c.consumedBy found anchored = some t
  · obtain ⟨found, t, hfind, hcons⟩ := hmatch
    have hcheck : c.perform (.attempt (.checking anchored) m) = .ok _ :=
      h.perform_of_consumedBy_some fits (by simpa using hfind) (by simpa using hcons)
    refine ⟨_, hcheck, ?_⟩
    rintro mode rfl
    -- the check has recorded the text that the attempt records again
    have hbetween : { c with latest := some t }.Between front back := ⟨h.text_eq, h.offset_eq⟩
    rw [h.perform_of_consumedBy_some fits hfind hcons]
    simpa using hbetween.perform_of_consumedBy_some fits hfind hcons
  · have hnone : ∀ found, m.find back anchored = some found →
        c.consumedBy found anchored = none := by
      intro found hfind
      rw [Option.eq_none_iff_forall_ne_some]
      exact fun t hcons => hmatch ⟨found, t, hfind, hcons⟩
    have hchecks : ∃ event : AttemptEvent,
        c.perform (.attempt (.checking anchored) m) = .ok ⟨.nothing, c, [event]⟩ :=
      h.perform_of_consumes_none (by simpa using hnone)
    obtain ⟨event, hcheck⟩ := hchecks
    exact ⟨_, hcheck, fun mode _ => rfl⟩

/-- A command that is answered the same behind itself may be repeated. -/
theorem performAll_replicate {again last : Command} {p q : Performed}
    (hagain : q.cursor.perform again = .ok q) (hlast : q.cursor.perform last = .ok p) (n : Nat) :
    q.cursor.performAll (List.replicate n again ++ [last]) = .ok (List.replicate n q ++ [p]) := by
  induction n with
  | zero =>
      show q.cursor.performAll [last] = .ok [p]
      rw [performAll, hlast]
      rfl
  | succ n ih =>
      rw [List.replicate_succ, List.replicate_succ, List.cons_append, performAll, hagain, ok_bind,
        ih]
      rfl

/-- Checks before an attempt, however many, do not change what it comes to. -/
theorem Between.performAll_checks (h : c.Between front back) (fits : c.text.width < wordLimit)
    (m : Matcher) {mode : MatchMode} (hmode : mode.anchored = anchored) (checks : Nat) :
    ∃ q p, c.perform (.attempt (.checking anchored) m) = .ok q ∧
      c.perform (.attempt mode m) = .ok p ∧
      c.performAll (List.replicate checks (.attempt (.checking anchored) m) ++ [.attempt mode m]) =
        .ok (List.replicate checks q ++ [p]) := by
  obtain ⟨q, hcheck, hbehind⟩ := h.perform_check fits m anchored
  obtain ⟨a, hattempt, -⟩ := h.attempt_cases fits m mode.advances mode.anchored
  have hp : c.perform (.attempt mode m) =
      .ok ⟨mode.reply a.consumed, a.cursor, [a.event]⟩ := by
    rw [perform, attemptBy_eq, hattempt]
    rfl
  refine ⟨q, _, hcheck, hp, ?_⟩
  cases checks with
  | zero =>
      show c.performAll [.attempt mode m] = .ok [_]
      rw [performAll, hp]
      rfl
  | succ checks =>
      have hagain := (hbehind (.checking anchored) (by simp)).trans hcheck
      have hlast := (hbehind mode hmode).trans hp
      rw [List.replicate_succ, List.replicate_succ, List.cons_append, performAll, hcheck, ok_bind,
        performAll_replicate hagain hlast]
      rfl

/-- **SIX WAYS, ONE PRIMITIVE**: wherever a cursor stands between two parts of its text, a span that
    the matcher reports and the cursor admits is consumed from the offset through its end, and any
    other answer changes nothing.  Whoever checks stays; whoever skips answers with the length.  So
    checks may be repeated before an attempt, and an empty match is a match. -/
theorem six_modes_one_primitive (hplace : c.text.isBoundary c.offset = true)
    (fits : c.text.width < wordLimit) :
    ∃ rest, c.rest = .ok rest ∧ ∀ (m : Matcher) (anchored : Bool),
      (∀ found, m.find rest anchored = some found → c.Admits anchored found →
        ∃ t, found.stop = t.width ∧ c.text.slice? c.offset (c.offset + found.stop) = some t ∧
          c.ComesTo m anchored (some t)
            { c with offset := c.offset + found.stop, latest := some t }) ∧
      ((∀ found, m.find rest anchored = some found → ¬ c.Admits anchored found) →
        c.ComesTo m anchored none c) ∧
      (∀ (mode : MatchMode) (checks : Nat), mode.anchored = anchored →
        ∃ q p, c.perform (.attempt (.checking anchored) m) = .ok q ∧
          c.perform (.attempt mode m) = .ok p ∧
          c.performAll
              (List.replicate checks (.attempt (.checking anchored) m) ++ [.attempt mode m]) =
            .ok (List.replicate checks q ++ [p])) ∧
      (m.find rest anchored = some ⟨0, 0⟩ →
        c.ComesTo m anchored (some []) { c with latest := some [] }) := by
  obtain ⟨front, back, hb⟩ := exists_between hplace
  refine ⟨back, hb.rest_eq, ?_⟩
  intro m anchored
  refine ⟨fun found hfind hadmits => hb.comesTo_of_admits fits hfind hadmits,
    fun hnone => hb.comesTo_of_not_admits fits hnone,
    fun mode checks hmode => hb.performAll_checks fits m hmode checks, ?_⟩
  intro hempty
  have hle := hb.offset_le
  have hadmits : c.Admits anchored ⟨0, 0⟩ :=
    ⟨Nat.le_refl 0, fun _ => rfl, Nat.lt_of_le_of_lt hle fits, hle, hplace⟩
  obtain ⟨t, hwidth, -, hcomes⟩ := hb.comesTo_of_admits fits hempty hadmits
  -- only the empty text has no bytes
  obtain rfl := Text.eq_nil_of_width hwidth.symm
  exact hcomes

/-- Behind a character of two bytes: the character that follows, two checks and a scan of it, an
    empty match, and a span whose end is no word. -/
theorem six_modes_one_primitive_behind_a_char :
    Text.isBoundary ['é', 'a'] 2 = true ∧ Text.width ['é', 'a'] < wordLimit ∧
      ∃ c : Cursor, c = ⟨['é', 'a'], 2, some ['é'], Window.standard⟩ ∧
        c.ComesTo (.fixed ⟨0, 1⟩) true (some ['a'])
          ⟨['é', 'a'], 3, some ['a'], Window.standard⟩ ∧
        c.ComesTo (.fixed ⟨0, wordLimit - 1⟩) true none c ∧
        (∃ q p, c.perform (.attempt .checkUntil (.char 'a')) = .ok q ∧
          c.perform (.attempt .skipUntil (.char 'a')) = .ok p ∧
          c.performAll [.attempt .checkUntil (.char 'a'), .attempt .checkUntil (.char 'a'),
            .attempt .skipUntil (.char 'a')] = .ok [q, q, p]) ∧
        c.ComesTo (.literal []) false (some []) ⟨['é', 'a'], 2, some [], Window.standard⟩ := by
  have hplace : Text.isBoundary ['é', 'a'] 2 = true := by decide
  have fits : Text.width ['é', 'a'] < wordLimit := by decide
  let c : Cursor := ⟨['é', 'a'], 2, some ['é'], Window.standard⟩
  obtain ⟨rest, hrest, hall⟩ := six_modes_one_primitive (c := c) hplace fits
  obtain rfl : ['a'] = rest := Except.ok.inj hrest
  refine ⟨hplace, fits, c, rfl, ?_, ?_, ?_, ?_⟩
  · have hadmits : c.Admits true ⟨0, 1⟩ :=
      ⟨by decide, fun _ => rfl, by decide, by decide, by decide⟩
    obtain ⟨t, -, hslice, hcomes⟩ := (hall (.fixed ⟨0, 1⟩) true).1 ⟨0, 1⟩ rfl hadmits
    obtain rfl : ['a'] = t := Option.some.inj hslice
    exact hcomes
  · refine (hall (.fixed ⟨0, wordLimit - 1⟩) true).2.1 fun found hfound hadmits => ?_
    obtain rfl := Option.some.inj hfound
    exact absurd hadmits.is_word (by decide)
  · exact (hall (.char 'a') false).2.2.1 .skipUntil 2 rfl
  · exact (hall (.literal []) false).2.2.2 (by decide)

end Cursor

end TextCursor
