import TextCursor.Cursor.Command
import TextCursor.Proofs.Matchers

/-! # Cursors never fault

    A cursor stands between two parts of its text: `Cursor.Between` names them,
    and each operation is described by what it does to them.  From these
    descriptions follows one invariant, `Cursor.Sound`: the text stays, the
    offset is a cut of it, and the latest match is a slice of it.

    The invariant is what makes the sums and slices of the next operation safe,
    so it is proved together with the absence of faults: one step lemma,
    `perform_sound`, and the run over a list of commands by induction. -/

namespace TextCursor

/-! ## Words -/

/-- A sum that fits in a word is what it should be. -/
theorem wordSum?_of_lt {a b : Nat} (h : a + b < wordLimit) : wordSum? a b = some (a + b) := by
  rw [wordSum?, if_pos h]

theorem checkedSum_of_lt {a b : Nat} (h : a + b < wordLimit) : checkedSum a b = .ok (a + b) := by
  rw [checkedSum, wordSum?_of_lt h]

/-- Subtracting meets no underflow where there is enough to take away. -/
theorem checkedDifference_of_le {a b : Nat} (h : b ≤ a) : checkedDifference a b = .ok (a - b) := by
  rw [checkedDifference, if_pos h]

/-- A sum that saturates still reaches every word that the exact sum reaches. -/
theorem min_saturatingSum {a b n : Nat} (h : n < wordLimit) :
    min (saturatingSum a b) n = min (a + b) n := by
  rw [saturatingSum]
  omega

/-- How a way to match answers: with the text consumed, or with its length. -/
def MatchMode.reply : MatchMode → Option Text → Reply
  | scan | scanUntil | check | checkUntil => Reply.ofText?
  | skip | skipUntil => Reply.ofWidth?

/-- Only what consumes nothing is answered with nothing. -/
theorem MatchMode.reply_eq_nothing_iff (mode : MatchMode) (consumed : Option Text) :
    mode.reply consumed = .nothing ↔ consumed = none := by
  cases consumed <;> cases mode <;> simp [reply, Reply.ofText?, Reply.ofWidth?]

namespace Cursor

/-! ## The two parts of the text -/

/-- A cursor that stands behind one part of its text and before another. -/
structure Between (c : Cursor) (front back : Text) : Prop where
  text_eq : c.text = front ++ back
  offset_eq : c.offset = front.width

variable {c : Cursor} {front back : Text}

/-- A new cursor stands before all of its text. -/
theorem between_ofText (text : Text) (window : Window) :
    (ofText text window).Between [] text :=
  ⟨rfl, rfl⟩

/-- A cursor stands between two parts as soon as its offset is a boundary. -/
theorem exists_between (h : c.text.isBoundary c.offset = true) :
    ∃ front back, c.Between front back := by
  obtain ⟨front, back, htext, hoffset⟩ := Text.isBoundary_iff.mp h
  exact ⟨front, back, htext, hoffset⟩

namespace Between

/-- A cursor between two texts stands on a boundary. -/
theorem isBoundary (h : c.Between front back) : c.text.isBoundary c.offset = true :=
  Text.isBoundary_iff.mpr ⟨front, back, h.text_eq, h.offset_eq⟩

theorem offset_le (h : c.Between front back) : c.offset ≤ c.text.width :=
  Text.le_width_of_isBoundary h.isBoundary

/-- What is read and what is left make up the width of the text. -/
theorem width_eq (h : c.Between front back) : c.text.width = c.offset + back.width := by
  rw [h.text_eq, h.offset_eq, Text.width_append]

theorem rest_eq (h : c.Between front back) : c.rest = .ok back := by
  rw [rest, h.text_eq, h.offset_eq, Text.after_append]

theorem before_eq (h : c.Between front back) : c.text.before c.offset = .ok front := by
  rw [h.text_eq, h.offset_eq, Text.before_append]

/-- A cursor is at the end when nothing is left. -/
theorem atEnd_iff (h : c.Between front back) : c.atEnd = true ↔ back = [] := by
  rw [atEnd, decide_eq_true_iff, h.width_eq]
  constructor
  · intro hle
    exact Text.eq_nil_of_width (by omega)
  · rintro rfl
    simp

/-! ## Attempts -/

/-- A span consumes exactly what it spans, if it starts where it may and ends at a boundary of the
    rest.  The start of a seek is not looked at any further. -/
theorem consumedBy_eq_some_iff (h : c.Between front back) (fits : c.text.width < wordLimit)
    {found : Span} {anchored : Bool} {t : Text} :
    c.consumedBy found anchored = some t ↔
      (anchored = true → found.start = 0) ∧ found.start ≤ found.stop ∧
        found.stop = t.width ∧ ∃ rest, back = t ++ rest := by
  constructor
  · intro hsome
    unfold consumedBy wordSum? at hsome
    by_cases hword : c.offset + found.stop < wordLimit
    · rw [if_pos hword] at hsome
      by_cases hspan : ((!anchored || found.start == 0) && found.start ≤ found.stop) = true
      · replace hsome : c.text.slice? c.offset (c.offset + found.stop) = some t := by
          rw [← hsome]
          exact (if_pos (by simpa using hspan)).symm
        obtain ⟨front', rest, htext, hstart, hstop⟩ := Text.slice?_eq_some_iff.mp hsome
        have hcut : front ++ back = front' ++ (t ++ rest) := by
          rw [← h.text_eq, htext, List.append_assoc]
        obtain ⟨-, hback⟩ := Text.cut_unique hcut (h.offset_eq.symm.trans hstart)
        simp only [Bool.and_eq_true, Bool.or_eq_true, Bool.not_eq_true', beq_iff_eq,
          decide_eq_true_eq] at hspan
        refine ⟨fun ha => ?_, hspan.2, by omega, rest, hback⟩
        rcases hspan.1 with hfalse | hzero
        · rw [ha] at hfalse
          exact nomatch hfalse
        · exact hzero
      · replace hsome : (none : Option Text) = some t := by
          rw [← hsome]
          exact (if_neg (by simpa using hspan)).symm
        exact nomatch hsome
    · rw [if_neg hword] at hsome
      exact nomatch hsome
  · rintro ⟨hanchor, hle, hstop, rest, rfl⟩
    have hspan : (!anchored || found.start == 0) = true := by
      cases anchored with
      | false => rfl
      | true => simp [hanchor rfl]
    have hwidth := h.width_eq
    rw [Text.width_append] at hwidth
    rw [consumedBy, wordSum?_of_lt (by omega)]
    show (if _ then c.text.slice? c.offset (c.offset + found.stop) else none) = some t
    rw [if_pos (by simp [hspan, hle]), hstop, h.offset_eq, h.text_eq, ← List.append_assoc]
    exact Text.slice?_append front t rest

/-- Where the matcher finds nothing, the cursor stays as it is. -/
theorem attempt_of_find_none (h : c.Between front back) {m : Matcher} {anchored : Bool}
    (hfind : m.find back anchored = none) (advance : Bool) :
    c.attempt m advance anchored = .ok ⟨none, c, .noMatch c.offset anchored advance⟩ := by
  rw [attempt, h.rest_eq, ok_bind, hfind]
  rfl

/-- Where the span is ill-formed, the cursor stays as it is. -/
theorem attempt_of_consumedBy_none (h : c.Between front back) {m : Matcher} {anchored : Bool}
    {found : Span} (hfind : m.find back anchored = some found)
    (hcons : c.consumedBy found anchored = none) (advance : Bool) :
    c.attempt m advance anchored = .ok ⟨none, c, .brokenContract found anchored⟩ := by
  rw [attempt, h.rest_eq, ok_bind, hfind]
  dsimp only
  rw [hcons]
  rfl

/-- Where the span consumes a text, that text is recorded, and passed to advance. -/
theorem attempt_of_consumedBy_some (h : c.Between front back) (fits : c.text.width < wordLimit)
    {m : Matcher} {anchored : Bool} {found : Span} {t : Text}
    (hfind : m.find back anchored = some found)
    (hcons : c.consumedBy found anchored = some t) (advance : Bool) :
    c.attempt m advance anchored = .ok ⟨some t,
      { c with offset := if advance then c.offset + t.width else c.offset, latest := some t },
      .matched c.offset (c.offset + t.width) anchored advance t⟩ := by
  obtain ⟨-, -, -, rest, rfl⟩ := (h.consumedBy_eq_some_iff fits).mp hcons
  -- what is consumed stands in the text, so the new offset is a word
  have hwidth := h.width_eq
  rw [Text.width_append] at hwidth
  rw [attempt, h.rest_eq, ok_bind, hfind]
  dsimp only
  rw [hcons]
  dsimp only
  rw [checkedSum_of_lt (by omega)]
  rfl

/-- An attempt either changes nothing, or consumes a beginning of the rest. -/
theorem attempt_cases (h : c.Between front back) (fits : c.text.width < wordLimit) (m : Matcher)
    (advance anchored : Bool) :
    ∃ a, c.attempt m advance anchored = .ok a ∧
      ((a.consumed = none ∧ a.cursor = c) ∨
        ∃ t rest, back = t ++ rest ∧ a.consumed = some t ∧
          a.cursor = { c with
            offset := if advance then c.offset + t.width else c.offset, latest := some t }) := by
  cases hfind : m.find back anchored with
  | none => exact ⟨_, h.attempt_of_find_none hfind advance, Or.inl ⟨rfl, rfl⟩⟩
  | some found =>
      cases hcons : c.consumedBy found anchored with
      | none => exact ⟨_, h.attempt_of_consumedBy_none hfind hcons advance, Or.inl ⟨rfl, rfl⟩⟩
      | some t =>
          obtain ⟨-, -, -, rest, hback⟩ := (h.consumedBy_eq_some_iff fits).mp hcons
          exact ⟨_, h.attempt_of_consumedBy_some fits hfind hcons advance,
            Or.inr ⟨t, rest, hback, rfl, rfl⟩⟩

/-! ## Peeks and takes -/

/-- A peek answers a beginning of the rest. -/
theorem peek_ok (h : c.Between front back) (fits : c.text.width < wordLimit) (length : Nat) :
    ∃ taken rest, back = taken ++ rest ∧ c.peek length = .ok taken := by
  obtain ⟨front', rest, htext, hok, hmin, -⟩ :=
    Text.boundaryAbove_ok c.text (saturatingSum c.offset length)
  -- rounding up from the offset or beyond never ends before the offset
  have hle : front.width ≤ front'.width := by
    rw [min_saturatingSum fits, h.width_eq, h.offset_eq] at hmin
    omega
  obtain ⟨taken, rfl, hback⟩ := Text.cut_mono (h.text_eq.symm.trans htext) hle
  refine ⟨taken, rest, hback, ?_⟩
  rw [peek, hok]
  show c.text.slice c.offset (front ++ taken).width = _
  rw [htext, h.offset_eq, Text.width_append, Text.slice_append]

/-- A take answers what a peek does and passes it. -/
theorem take_of_peek (h : c.Between front back) (fits : c.text.width < wordLimit) {length : Nat}
    {taken rest : Text} (hback : back = taken ++ rest) (hpeek : c.peek length = .ok taken) :
    c.take length = .ok (taken, { c with offset := c.offset + taken.width }) := by
  have hwidth := h.width_eq
  rw [hback, Text.width_append] at hwidth
  rw [take, hpeek, ok_bind, checkedSum_of_lt (by omega)]
  rfl

/-- A peek of one byte shows one character. -/
theorem peek_char {d : Char} (h : c.Between front (d :: back)) (fits : c.text.width < wordLimit) :
    c.peek 1 = .ok [d] := by
  have hwidth := h.width_eq
  have hpos := d.utf8Size_pos
  rw [Text.width_cons] at hwidth
  -- a character follows, so the sum does not saturate and rounds up to its end
  have hsum : saturatingSum c.offset 1 = c.offset + 1 := by
    rw [saturatingSum]
    omega
  have habove : c.text.boundaryAbove (c.offset + 1) = .ok (front.width + d.utf8Size) := by
    rw [h.text_eq, h.offset_eq]
    exact Text.boundaryAbove_char (Nat.lt_succ_self _) (by omega)
  have hslice := Text.slice_append front [d] back
  rw [peek, hsum, habove]
  show c.text.slice c.offset (front.width + d.utf8Size) = _
  rw [h.text_eq, h.offset_eq]
  simpa using hslice

/-- Taking one byte takes one character. -/
theorem take_char {d : Char} (h : c.Between front (d :: back)) (fits : c.text.width < wordLimit) :
    c.take 1 = .ok ([d], { c with offset := c.offset + d.utf8Size }) :=
  h.take_of_peek fits (rfl : d :: back = [d] ++ back) (h.peek_char fits)

/-- At the end of the text there is nothing to see. -/
theorem peek_end (h : c.Between front []) (fits : c.text.width < wordLimit) (length : Nat) :
    c.peek length = .ok [] := by
  obtain ⟨taken, rest, hback, hpeek⟩ := h.peek_ok fits length
  obtain ⟨rfl, -⟩ := List.append_eq_nil_iff.mp hback.symm
  exact hpeek

/-- At the end of the text there is nothing to take. -/
theorem take_end (h : c.Between front []) (fits : c.text.width < wordLimit) (length : Nat) :
    c.take length = .ok ([], c) :=
  h.take_of_peek fits (List.append_nil []).symm (h.peek_end fits length)

/-- A cursor that has passed a beginning of the rest stands behind it. -/
theorem passed (h : c.Between front back) {taken rest : Text} (hback : back = taken ++ rest) :
    { c with offset := c.offset + taken.width }.Between (front ++ taken) rest := by
  refine ⟨?_, ?_⟩
  · show c.text = _
    rw [h.text_eq, hback, List.append_assoc]
  · show c.offset + taken.width = _
    rw [h.offset_eq, Text.width_append]

end Between

/-! ## Moves and looks -/

/-- A move goes to a cut of the text that is not beyond the position. -/
theorem moveTo_ok (c : Cursor) (position : Nat) :
    ∃ front back, c.text = front ++ back ∧ front.width ≤ position ∧
      c.moveTo position = .ok (front.width, { c with offset := front.width }) := by
  obtain ⟨front, back, htext, hok, hle, -⟩ := Text.boundaryBelow_ok c.text position
  refine ⟨front, back, htext, hle, ?_⟩
  rw [moveTo, hok]
  rfl

/-- A move to a cut of the text goes there. -/
theorem moveTo_width (htext : c.text = front ++ back) :
    c.moveTo front.width = .ok (front.width, { c with offset := front.width }) := by
  rw [moveTo, htext, Text.boundaryBelow_width]
  rfl

/-- A move goes exactly to the position asked for if that is a boundary, and only then. -/
theorem moveTo_eq_self_iff {moved : Cursor} {position : Nat} :
    c.moveTo position = .ok (position, moved) ↔
      c.text.isBoundary position = true ∧ moved = { c with offset := position } := by
  constructor
  · intro h
    obtain ⟨front, back, htext, -, hok⟩ := moveTo_ok c position
    obtain ⟨rfl, rfl⟩ := Prod.mk.inj (Except.ok.inj (h.symm.trans hok))
    exact ⟨Text.isBoundary_iff.mpr ⟨front, back, htext, rfl⟩, rfl⟩
  · rintro ⟨hbound, rfl⟩
    rw [moveTo, Text.boundaryBelow_eq_self_iff.mpr hbound]
    rfl

/-- A look answers the character at the position. -/
theorem charFrom_eq (c : Cursor) (index : Nat) :
    c.charFrom index = .ok (c.text.charAt? index) := by
  by_cases hbound : c.text.isBoundary index = true
  · obtain ⟨front, back, htext, hindex⟩ := Text.isBoundary_iff.mp hbound
    have hchar : c.text.charAt? index = back.head? := by
      rw [htext, hindex, Text.charAt?_width]
    by_cases hpast : c.text.width ≤ index
    · -- a cut at the end of the text has nothing behind it
      have hback : back = [] := by
        rw [htext, hindex, Text.width_append] at hpast
        exact Text.eq_nil_of_width (by omega)
      rw [charFrom, if_pos (by simp [hpast]), hchar, hback, List.head?_nil]
    · rw [charFrom, if_neg (by simp [hpast, hbound]), hchar, htext, hindex, Text.after_append]
      rfl
  · rw [Bool.not_eq_true] at hbound
    rw [charFrom, if_pos (by simp [hbound]), Text.charAt?_of_not_isBoundary hbound]

/-- The character at a position is there, and its absence is no fault. -/
theorem charFrom_ok (c : Cursor) (index : Nat) :
    ∃ answer, c.charFrom index = .ok answer ∧
      ∀ d, answer = some d → ∃ u v, c.text = u ++ d :: v ∧ index = u.width :=
  ⟨_, c.charFrom_eq index, fun _ => Text.charAt?_eq_some_iff.mp⟩

/-- The window is shown wherever the cursor stands. -/
theorem Between.summary_ok (h : c.Between front back) : ∃ t, c.summary = .ok t := by
  rw [summary, shown, h.before_eq]
  exact ⟨_, rfl⟩

/-! ## Soundness -/

/-- What every operation keeps of a cursor over a text. -/
structure Sound (text : Text) (c : Cursor) : Prop where
  text_eq : c.text = text
  offset_le : c.offset ≤ text.width
  isBoundary : text.isBoundary c.offset = true
  /-- The text before the offset and the rest make up the text. -/
  joined : ∃ front back, text.before c.offset = .ok front ∧ c.rest = .ok back ∧
    front ++ back = text
  /-- The latest match stands somewhere in the text. -/
  latest_slice : ∀ t, c.latest = some t → ∃ start stop, text.isBoundary start = true ∧
    text.isBoundary stop = true ∧ text.slice? start stop = some t

variable {text : Text}

/-- A part of a text is a slice of it between boundaries. -/
theorem exists_slice (front part back : Text) : ∃ start stop,
    (front ++ part ++ back).isBoundary start = true ∧
      (front ++ part ++ back).isBoundary stop = true ∧
      (front ++ part ++ back).slice? start stop = some part := by
  refine ⟨front.width, front.width + part.width, ?_, ?_, Text.slice?_append front part back⟩
  · rw [List.append_assoc]
    exact Text.isBoundary_append front (part ++ back)
  · rw [← Text.width_append]
    exact Text.isBoundary_append (front ++ part) back

namespace Sound

/-- A sound cursor stands between two texts. -/
theorem between (h : c.Sound text) : ∃ front back, c.Between front back :=
  exists_between (by rw [h.text_eq]; exact h.isBoundary)

/-- A cursor that stands at a cut is sound, if its latest match is a slice. -/
theorem of_between (h : c.Between front back) (htext : c.text = text)
    (hlatest : ∀ t, c.latest = some t → ∃ start stop, text.isBoundary start = true ∧
      text.isBoundary stop = true ∧ text.slice? start stop = some t) : c.Sound text where
  text_eq := htext
  offset_le := htext ▸ h.offset_le
  isBoundary := htext ▸ h.isBoundary
  joined := ⟨front, back, htext ▸ h.before_eq, h.rest_eq, by rw [← h.text_eq, htext]⟩
  latest_slice := hlatest

theorem ofText (text : Text) (window : Window) : (Cursor.ofText text window).Sound text :=
  of_between (between_ofText text window) rfl fun _ hnone => nomatch hnone

/-- Another offset at a cut keeps a cursor sound. -/
theorem withOffset (h : c.Sound text) (htext : text = front ++ back) :
    { c with offset := front.width }.Sound text :=
  of_between ⟨h.text_eq.trans htext, rfl⟩ h.text_eq h.latest_slice

/-- An attempt meets no fault, whatever the matcher answers, and leaves the cursor sound. -/
theorem attempt_ok (h : c.Sound text) (fits : text.width < wordLimit) (m : Matcher)
    (advance anchored : Bool) :
    ∃ a, c.attempt m advance anchored = .ok a ∧ a.cursor.Sound text := by
  obtain ⟨front, back, hb⟩ := h.between
  obtain ⟨a, hok, ⟨-, hsame⟩ | ⟨t, rest, rfl, -, hmoved⟩⟩ :=
    hb.attempt_cases (by rw [h.text_eq]; exact fits) m advance anchored
  · exact ⟨a, hok, by rw [hsame]; exact h⟩
  · refine ⟨a, hok, ?_⟩
    have htext : text = front ++ t ++ rest := by
      rw [← h.text_eq, hb.text_eq, List.append_assoc]
    have hslice : ∀ u, some t = some u → ∃ start stop, text.isBoundary start = true ∧
        text.isBoundary stop = true ∧ text.slice? start stop = some u := by
      intro u hu
      obtain rfl := Option.some.inj hu
      rw [htext]
      exact exists_slice front t rest
    rw [hmoved]
    -- the latest match changes in both cases, the offset only in the second
    cases advance with
    | false => exact of_between ⟨hb.text_eq, hb.offset_eq⟩ h.text_eq hslice
    | true =>
        have hpass := hb.passed (rfl : t ++ rest = t ++ rest)
        exact of_between ⟨hpass.text_eq, hpass.offset_eq⟩ h.text_eq hslice

/-- Taking characters meets no fault and leaves the cursor sound. -/
theorem take_ok (h : c.Sound text) (fits : text.width < wordLimit) (length : Nat) :
    ∃ taken c', c.take length = .ok (taken, c') ∧ c'.Sound text := by
  obtain ⟨front, back, hb⟩ := h.between
  have fits' : c.text.width < wordLimit := by rw [h.text_eq]; exact fits
  obtain ⟨taken, rest, hback, hpeek⟩ := hb.peek_ok fits' length
  exact ⟨taken, _, hb.take_of_peek fits' hback hpeek,
    of_between (hb.passed hback) h.text_eq h.latest_slice⟩

/-- Moving meets no fault, wherever to, and leaves the cursor sound. -/
theorem moveTo_ok (h : c.Sound text) (position : Nat) :
    ∃ stored c', c.moveTo position = .ok (stored, c') ∧ c'.Sound text := by
  obtain ⟨front, back, htext, -, hok⟩ := Cursor.moveTo_ok c position
  exact ⟨_, _, hok, h.withOffset (h.text_eq.symm.trans htext)⟩

/-- Going back to the start leaves the cursor sound. -/
theorem reset (h : c.Sound text) : c.reset.Sound text := by
  have hb : c.reset.Between [] text := ⟨h.text_eq, rfl⟩
  exact of_between hb h.text_eq fun _ hnone => nomatch hnone

/-- Going to the end leaves the cursor sound. -/
theorem terminate (h : c.Sound text) : c.terminate.Sound text := by
  have hb : c.terminate.Between text [] := by
    refine ⟨?_, ?_⟩
    · show c.text = text ++ []
      rw [h.text_eq, List.append_nil]
    · show c.text.width = text.width
      rw [h.text_eq]
  exact of_between hb h.text_eq fun _ hnone => nomatch hnone

end Sound

/-- The six ways to match are attempts that differ in how they answer. -/
theorem attemptBy_eq (c : Cursor) (mode : MatchMode) (m : Matcher) :
    c.attemptBy mode m = (c.attempt m mode.advances mode.anchored).map fun a =>
      ⟨mode.reply a.consumed, a.cursor, [a.event]⟩ := by
  cases mode with
  | scan => rfl
  | scanUntil => rfl
  | check => rfl
  | checkUntil => rfl
  | skip => rfl
  | skipUntil => rfl

/-- One command meets no fault and leaves a sound cursor. -/
theorem perform_sound (h : c.Sound text) (fits : text.width < wordLimit) (command : Command) :
    ∃ p, c.perform command = .ok p ∧ p.cursor.Sound text := by
  obtain ⟨front, back, hb⟩ := h.between
  have fits' : c.text.width < wordLimit := by rw [h.text_eq]; exact fits
  cases command with
  | attempt mode m =>
      obtain ⟨a, hok, hsound⟩ := h.attempt_ok fits m mode.advances mode.anchored
      exact ⟨⟨mode.reply a.consumed, a.cursor, [a.event]⟩,
        by rw [perform, attemptBy_eq, hok]; rfl, hsound⟩
  | peek length =>
      obtain ⟨taken, -, -, hok⟩ := hb.peek_ok fits' length
      exact ⟨⟨.text taken, c, []⟩, by rw [perform, hok]; rfl, h⟩
  | take length =>
      obtain ⟨taken, c', hok, hsound⟩ := h.take_ok fits length
      exact ⟨⟨.text taken, c', []⟩, by rw [perform, hok]; rfl, hsound⟩
  | moveTo position =>
      obtain ⟨stored, c', hok, hsound⟩ := h.moveTo_ok position
      exact ⟨⟨.number stored, c', []⟩, by rw [perform, hok]; rfl, hsound⟩
  | charFrom index =>
      obtain ⟨answer, hok, -⟩ := charFrom_ok c index
      exact ⟨⟨.ofChar? answer, c, []⟩, by rw [perform, hok]; rfl, h⟩
  | text => exact ⟨_, rfl, h⟩
  | rest => exact ⟨⟨.text back, c, []⟩, by rw [perform, hb.rest_eq]; rfl, h⟩
  | atEnd => exact ⟨_, rfl, h⟩
  | summary =>
      obtain ⟨t, hok⟩ := hb.summary_ok
      exact ⟨⟨.text t, c, []⟩, by rw [perform, hok]; rfl, h⟩
  | render => exact ⟨_, rfl, h⟩
  | reset => exact ⟨_, rfl, h.reset⟩
  | terminate => exact ⟨_, rfl, h.terminate⟩

/-- Commands meet no fault and leave a sound cursor each. -/
theorem performAll_sound (fits : text.width < wordLimit) (commands : List Command) :
    ∀ c : Cursor, c.Sound text → ∃ answers, c.performAll commands = .ok answers ∧
      answers.length = commands.length ∧ ∀ p ∈ answers, p.cursor.Sound text := by
  induction commands with
  | nil => exact fun c _ => ⟨[], rfl, rfl, fun p hp => nomatch hp⟩
  | cons command commands ih =>
      intro c h
      obtain ⟨p, hp, hsound⟩ := perform_sound h fits command
      obtain ⟨answers, hall, hlength, hsounds⟩ := ih p.cursor hsound
      refine ⟨p :: answers, ?_, by rw [List.length_cons, List.length_cons, hlength], ?_⟩
      · rw [performAll, hp, ok_bind, hall]
        rfl
      · intro q hq
        rcases List.mem_cons.mp hq with rfl | hq
        · exact hsound
        · exact hsounds q hq

/-- The cursors that commands lead to from the start of a text. -/
inductive Reached (text : Text) : Cursor → Prop
  | start (window : Window) : Reached text (ofText text window)
  | command {c : Cursor} {p : Performed} (command : Command) (h : Reached text c)
      (performed : c.perform command = .ok p) : Reached text p.cursor

/-- A cursor that is reached is sound, since every command keeps it so. -/
theorem Reached.sound (h : c.Reached text) (fits : text.width < wordLimit) : c.Sound text := by
  induction h with
  | start window => exact Sound.ofText text window
  | command command _ performed ih =>
      obtain ⟨p', hok, hsound⟩ := perform_sound ih fits command
      obtain rfl := Except.ok.inj (performed.symm.trans hok)
      exact hsound

/-- What is reached stands somewhere in the text, whose positions are words. -/
theorem Reached.between (h : c.Reached text) (fits : text.width < wordLimit) :
    ∃ front back, c.Between front back ∧ c.text.width < wordLimit := by
  have hsound := h.sound fits
  obtain ⟨front, back, hb⟩ := hsound.between
  exact ⟨front, back, hb, hsound.text_eq ▸ fits⟩

/-- **No session of a cursor faults**: whatever the commands, their arguments and the spans that
    the matchers report, each command is answered and leaves a sound cursor.  The spans of
    literals and characters do not leave the haystack either. -/
theorem session_never_faults (text : Text) (window : Window) (commands : List Command)
    (fits : text.width < wordLimit) :
    (∃ answers, (Cursor.ofText text window).performAll commands = .ok answers ∧
      answers.length = commands.length ∧ ∀ p ∈ answers, p.cursor.Sound text) ∧
    (∀ sought haystack anchored found,
      (Matcher.literal sought).find haystack anchored = some found →
        found.stop ≤ haystack.width) ∧
    (∀ sought haystack anchored found,
      (Matcher.char sought).find haystack anchored = some found →
        found.stop ≤ haystack.width) :=
  ⟨performAll_sound fits commands _ (Sound.ofText text window),
    fun _ _ _ _ h => Matcher.literal_stop_le h, fun _ _ _ _ h => Matcher.char_stop_le h⟩

/-- A session with a span that starts inside a character, a length of the largest word and a
    position inside a character. -/
theorem session_inside_a_char :
    Text.width ['é', 'a'] < wordLimit ∧
      ∃ answers, (Cursor.ofText ['é', 'a'] Window.standard).performAll
          [.attempt .scanUntil (Matcher.fixed ⟨1, 2⟩), .take (wordLimit - 1), .moveTo 1,
            .attempt .skip (Matcher.fixed ⟨2, 1⟩), .summary] = .ok answers ∧
        answers.length = 5 ∧ ∀ p ∈ answers, p.cursor.Sound ['é', 'a'] :=
  ⟨by decide, (session_never_faults _ _ _ (by decide)).1⟩

end Cursor

end TextCursor
