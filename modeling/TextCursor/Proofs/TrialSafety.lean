import TextCursor.Proofs.CursorSafety
import TextCursor.Trial

/-! # Every trial passes

    A trial checks its expectations on the run.  None of them ever fails, for no
    text, no actions and no matchers, however the matchers behave: what the
    expectations ask of one step follows from `Cursor.Sound` and from what an
    attempt does to a cursor.

    Two facts lead from there to trials over bytes.  The text drawn from bytes is
    no longer than they are, so that its positions are words; and the expressions
    of a trial compile. -/

namespace TextCursor.Trial

variable {c : Cursor} {text : Text}

theorem expect_true {condition : Bool} (h : condition = true) (expectation : String) :
    expect condition expectation = .ok () := by
  rw [expect, if_pos h]

/-- A text starts with its front. -/
theorem startsWith_append (front back : Text) : startsWith (front ++ back) front = true := by
  rw [startsWith, Text.bytes_append]
  exact List.isPrefixOf_iff_prefix.mpr (List.prefix_append _ _)

/-! ## Actions -/

/-- What the answer of an action says about the cursors before and after it. -/
def Executed.Answers (c : Cursor) (back : Text) (e : Executed) : Prop :=
  match e.consumed with
  | some (some t) => e.cursor.latest = some t ∧ ∃ rest, back = t ++ rest
  | some none => e.cursor.offset = c.offset ∧ e.cursor.latest = c.latest
  | none => True

/-- Whatever is sought, there is a matcher for it. -/
theorem matcher_ok {matchers : List Matcher} (hmatchers : matchers ≠ []) (sought : Sought) :
    ∃ m, sought.matcher matchers = .ok m := by
  cases sought with
  | literal t => exact ⟨_, rfl⟩
  | char d => exact ⟨_, rfl⟩
  | regex i =>
      have hpos : 0 < matchers.length := List.length_pos_iff.mpr hmatchers
      have hindex : i % matchers.length < matchers.length := Nat.mod_lt i hpos
      refine ⟨matchers[i % matchers.length], ?_⟩
      rw [Sought.matcher, if_neg (by omega), List.getElem?_eq_getElem hindex]

/-- An attempt of a trial is executed and answers for itself. -/
theorem attempt_ok (h : c.Sound text) (fits : text.width < wordLimit) {front back : Text}
    (hb : c.Between front back) {matchers : List Matcher} (hmatchers : matchers ≠ [])
    (sought : Sought) (advance anchored : Bool) :
    ∃ e, attempt matchers sought (fun m => c.attempt m advance anchored) = .ok e ∧
      e.cursor.Sound text ∧ e.Answers c back := by
  obtain ⟨m, hm⟩ := matcher_ok hmatchers sought
  obtain ⟨a, hok, hsound⟩ := h.attempt_ok fits m advance anchored
  refine ⟨⟨a.cursor, [a.event], some a.consumed⟩, ?_, hsound, ?_⟩
  · rw [attempt, hm, ok_bind, hok]
    rfl
  · obtain ⟨a', hok', hcases⟩ := hb.attempt_cases (by rw [h.text_eq]; exact fits) m advance anchored
    obtain rfl : a = a' := Except.ok.inj (hok.symm.trans hok')
    rcases hcases with ⟨hnone, hsame⟩ | ⟨t, rest, hback, hsome, hmoved⟩
    · simp only [Executed.Answers, hnone, hsame, and_self]
    · simp only [Executed.Answers, hsome, hmoved, true_and]
      exact ⟨rest, hback⟩

/-- An attempt that answers with a length is executed, and the length leads to the offset. -/
theorem attemptLength_ok (h : c.Sound text) (fits : text.width < wordLimit)
    {matchers : List Matcher} (hmatchers : matchers ≠ []) (sought : Sought) (anchored : Bool) :
    ∃ e, attemptLength matchers c sought (fun m => c.attempt m true anchored) = .ok e ∧
      e.cursor.Sound text ∧ e.consumed = none := by
  obtain ⟨front, back, hb⟩ := h.between
  obtain ⟨m, hm⟩ := matcher_ok hmatchers sought
  obtain ⟨a, hok, hsound⟩ := h.attempt_ok fits m true anchored
  refine ⟨⟨a.cursor, [a.event], none⟩, ?_, hsound, rfl⟩
  -- the same attempt, once as what keeps a cursor sound and once as what it consumes
  obtain ⟨a', hok', hcases⟩ := hb.attempt_cases (by rw [h.text_eq]; exact fits) m true anchored
  obtain rfl : a = a' := Except.ok.inj (hok.symm.trans hok')
  rw [attemptLength, hm, ok_bind, hok, ok_bind]
  rcases hcases with ⟨hnone, -⟩ | ⟨t, rest, rfl, hsome, hmoved⟩
  · rw [hnone]
    rfl
  · have hwidth := hb.width_eq
    rw [h.text_eq, Text.width_append] at hwidth
    have hstop : (c.offset + t.width == a.cursor.offset) = true := by
      rw [hmoved]
      exact beq_self_eq_true _
    rw [hsome]
    dsimp only
    rw [checkedSum_of_lt (by omega), ok_bind, expect_true hstop]
    rfl

/-- Every action is executed, with the expectations of its own, and leaves a sound cursor. -/
theorem execute_ok (h : c.Sound text) (fits : text.width < wordLimit) {front back : Text}
    (hb : c.Between front back) {matchers : List Matcher} (hmatchers : matchers ≠ [])
    (action : Action) :
    ∃ e, execute matchers c action = .ok e ∧ e.cursor.Sound text ∧ e.Answers c back := by
  have fits' : c.text.width < wordLimit := by rw [h.text_eq]; exact fits
  cases action with
  | scan sought => exact attempt_ok h fits hb hmatchers sought true true
  | scanUntil sought => exact attempt_ok h fits hb hmatchers sought true false
  | check sought => exact attempt_ok h fits hb hmatchers sought false true
  | checkUntil sought => exact attempt_ok h fits hb hmatchers sought false false
  | skip sought =>
      obtain ⟨e, hok, hsound, hnone⟩ := attemptLength_ok h fits hmatchers sought true
      exact ⟨e, hok, hsound, by rw [Executed.Answers, hnone]; trivial⟩
  | skipUntil sought =>
      obtain ⟨e, hok, hsound, hnone⟩ := attemptLength_ok h fits hmatchers sought false
      exact ⟨e, hok, hsound, by rw [Executed.Answers, hnone]; trivial⟩
  | peek length =>
      obtain ⟨taken, rest, rfl, hpeek⟩ := hb.peek_ok fits' length
      refine ⟨⟨c, [], none⟩, ?_, h, trivial⟩
      have hafter : c.text.after c.offset = .ok (taken ++ rest) := hb.rest_eq
      rw [execute, hpeek, ok_bind, expect_true (beq_self_eq_true c.offset), ok_bind, hafter,
        ok_bind, expect_true (startsWith_append taken rest)]
      rfl
  | take length =>
      obtain ⟨taken, rest, rfl, hpeek⟩ := hb.peek_ok fits' length
      have htake := hb.take_of_peek fits' rfl hpeek
      obtain ⟨taken', c', htake', hsound⟩ := h.take_ok fits length
      obtain ⟨rfl, rfl⟩ := Prod.mk.inj (Except.ok.inj (htake.symm.trans htake'))
      refine ⟨⟨_, [], none⟩, ?_, hsound, trivial⟩
      have hwidth := hb.width_eq
      rw [Text.width_append] at hwidth
      rw [execute, hpeek, ok_bind, htake, ok_bind]
      dsimp only
      rw [expect_true (beq_self_eq_true taken), ok_bind, checkedSum_of_lt (by omega), ok_bind,
        expect_true (beq_self_eq_true _)]
      rfl
  | moveTo position =>
      obtain ⟨front', back', htext, hle, hok⟩ := Cursor.moveTo_ok c position
      refine ⟨⟨_, [], none⟩, ?_, h.withOffset (h.text_eq.symm.trans htext), trivial⟩
      have hmin : decide (front'.width ≤ min position c.text.width) = true := by
        rw [htext, Text.width_append]
        exact decide_eq_true (by omega)
      rw [execute, hok, ok_bind]
      dsimp only
      rw [expect_true hmin]
      rfl
  | charFrom index =>
      obtain ⟨answer, hok, hfrom⟩ := Cursor.charFrom_ok c index
      refine ⟨⟨c, [], none⟩, ?_, h, trivial⟩
      rw [execute, hok]
      cases answer with
      | none => rfl
      | some d =>
          obtain ⟨u, v, htext, rfl⟩ := hfrom d rfl
          have hstarts : startsWith (d :: v) [d] = true := startsWith_append [d] v
          show (c.text.after u.width >>= _) = _
          rw [htext, Text.after_append, ok_bind, expect_true hstarts]
          rfl
  | reset => exact ⟨⟨c.reset, [], none⟩, rfl, h.reset, trivial⟩
  | terminate =>
      refine ⟨⟨c.terminate, [], none⟩, ?_, h.terminate, trivial⟩
      have hend : c.terminate.atEnd = true := decide_eq_true (Nat.le_refl _)
      show (expect c.terminate.atEnd _ >>= _) = _
      rw [expect_true hend]
      rfl

/-! ## Steps -/

/-- One step of a trial meets every expectation and leaves a sound cursor. -/
theorem step_ok (h : c.Sound text) (fits : text.width < wordLimit) {matchers : List Matcher}
    (hmatchers : matchers ≠ []) (action : Action) :
    ∃ c' events, step matchers c action = .ok (c', events) ∧ c'.Sound text := by
  obtain ⟨front, back, hb⟩ := h.between
  obtain ⟨e, hok, hsound, hanswers⟩ := execute_ok h fits hb hmatchers action
  refine ⟨e.cursor, e.events, ?_, hsound⟩
  have htext : e.cursor.text = c.text := hsound.text_eq.trans h.text_eq.symm
  obtain ⟨front', back', hb'⟩ := hsound.between
  obtain ⟨shown, hshown⟩ := hb'.summary_ok
  have htail : c.text.after e.cursor.offset = .ok back' := by
    rw [← htext]
    exact hb'.rest_eq
  -- the expectations on the offset and the rest, which every action has in common
  have hcommon : ((do
      expect (e.cursor.offset ≤ c.text.width) "the offset lies within the text"
      expect (c.text.isBoundary e.cursor.offset) "the offset is a boundary"
      let rest ← e.cursor.rest
      let tail ← c.text.after e.cursor.offset
      expect (rest == tail) "the rest begins at the offset"
      let _ ← e.cursor.summary
      return (e.cursor, e.events)) : Checked (Cursor × List AttemptEvent))
        = .ok (e.cursor, e.events) := by
    rw [← htext, expect_true (decide_eq_true hb'.offset_le), ok_bind, expect_true hb'.isBoundary,
      ok_bind, hb'.rest_eq, ok_bind, htext, htail, ok_bind, expect_true (beq_self_eq_true back'),
      ok_bind, hshown]
    rfl
  rw [step, hok, ok_bind]
  unfold Executed.Answers at hanswers
  cases hconsumed : e.consumed with
  | none => exact hcommon
  | some consumed =>
      rw [hconsumed] at hanswers
      cases consumed with
      | none =>
          obtain ⟨hoffset, hlatest⟩ := hanswers
          show (expect (e.cursor.offset == c.offset) _ >>= _) = _
          rw [expect_true (by rw [hoffset]; exact beq_self_eq_true _), ok_bind,
            expect_true (by rw [hlatest]; exact beq_self_eq_true _)]
          exact hcommon
      | some t =>
          obtain ⟨hlatest, rest, rfl⟩ := hanswers
          have hafter : c.text.after c.offset = .ok (t ++ rest) := hb.rest_eq
          show (expect (e.cursor.latest == some t) _ >>= _) = _
          rw [expect_true (by rw [hlatest]; exact beq_self_eq_true _), ok_bind, hafter, ok_bind,
            expect_true (startsWith_append t rest)]
          exact hcommon

/-- All steps of a trial meet every expectation. -/
theorem steps_ok (fits : text.width < wordLimit) {matchers : List Matcher}
    (hmatchers : matchers ≠ []) (actions : List Action) :
    ∀ c : Cursor, c.Sound text → ∃ events, steps matchers c actions = .ok events := by
  induction actions with
  | nil => exact fun c _ => ⟨[], rfl⟩
  | cons action actions ih =>
      intro c h
      obtain ⟨c', events, hstep, hsound⟩ := step_ok h fits hmatchers action
      obtain ⟨events', hsteps⟩ := ih c' hsound
      refine ⟨events ++ events', ?_⟩
      rw [steps, hstep, ok_bind]
      dsimp only
      rw [hsteps]
      rfl

/-! ## Expressions -/

/-- Whether an expression compiles. -/
def compiles (source : String) : Bool :=
  (Regex.compile source.toList).isOk

/-- What compiles can be prepared, so that a matcher is made of each expression. -/
theorem matchersOf_ok {sources : List String} (h : ∀ source ∈ sources, compiles source = true) :
    ∃ matchers, matchersOf sources = .ok matchers ∧ matchers.length = sources.length := by
  induction sources with
  | nil => exact ⟨[], rfl, rfl⟩
  | cons source sources ih =>
      obtain ⟨matchers, hok, hlength⟩ :=
        ih fun source' hmem => h source' (List.mem_cons_of_mem _ hmem)
      have hcompiles := h source List.mem_cons_self
      unfold compiles at hcompiles
      cases hcompile : Regex.compile source.toList with
      | error e =>
          rw [hcompile] at hcompiles
          exact nomatch hcompiles
      | ok r =>
          have hprepared : PreparedRegex.compile source.toList = .ok ⟨r, r⟩ := by
            rw [PreparedRegex.compile, PreparedRegex.compileBoth, hcompile]
            rfl
          refine ⟨Matcher.ofPrepared ⟨r, r⟩ :: matchers, ?_, by rw [List.length_cons, hlength,
            List.length_cons]⟩
          unfold matchersOf at hok ⊢
          rw [List.mapM_cons, hprepared, hok]
          rfl

/-- The patterns of the trial compile. -/
theorem expressions_compile : ∀ source ∈ expressions, compiles source = true := by
  have h : expressions.all compiles = true := by decide +kernel
  exact List.all_eq_true.mp h

/-! ## Texts drawn from bytes -/

namespace Draw

/-- The characters below 128 are one byte wide. -/
theorem utf8Size_ofNat_ascii {n : Nat} (h : n < 0x80) : (Char.ofNat n).utf8Size = 1 := by
  have hall : ∀ n < 0x80, (Char.ofNat n).utf8Size = 1 := by decide
  exact hall n h

/-- A character is assembled from as many bytes as it takes to write it. -/
theorem utf8Size_of_assemble {lead : Nat} {tails : Bytes} {d : Char}
    (h : assemble lead tails = some d) : d.utf8Size = tails.length + 1 := by
  simp only [assemble] at h
  split at h
  · rename_i hcond
    obtain rfl := Option.some.inj h
    exact hcond.2.2
  · exact nomatch h

/-- A character with so many tails behind its leading byte is as wide as they are together. -/
theorem width_of_assemble {lead tails : Nat} {bs : Bytes} {d : Char} {w : Nat}
    (h : (if bs.length < tails then none
      else (assemble lead (bs.take tails)).map (·, tails + 1)) = some (d, w)) :
    d.utf8Size = w ∧ w ≤ bs.length + 1 := by
  by_cases hshort : bs.length < tails
  · rw [if_pos hshort] at h
    exact nomatch h
  · rw [if_neg hshort] at h
    obtain ⟨d', hd', heq⟩ := Option.map_eq_some_iff.mp h
    obtain ⟨rfl, rfl⟩ := Prod.mk.inj heq
    have hsize := utf8Size_of_assemble hd'
    rw [List.length_take] at hsize
    omega

/-- The first character of bytes is as wide as it says, and not wider than they are. -/
theorem width_of_firstChar? {bytes : Bytes} {d : Char} {w : Nat}
    (h : firstChar? bytes = some (d, w)) : d.utf8Size = w ∧ w ≤ bytes.length := by
  cases bytes with
  | nil => exact nomatch h
  | cons b bs =>
      rw [firstChar?] at h
      rw [List.length_cons]
      by_cases h1 : b.toNat < 0x80
      · rw [if_pos h1] at h
        obtain ⟨rfl, rfl⟩ := Prod.mk.inj (Option.some.inj h)
        exact ⟨utf8Size_ofNat_ascii h1, by omega⟩
      rw [if_neg h1] at h
      by_cases h2 : b.toNat < 0xC0
      · rw [if_pos h2] at h
        exact nomatch h
      rw [if_neg h2] at h
      by_cases h3 : b.toNat < 0xE0
      · rw [if_pos h3] at h
        exact width_of_assemble h
      rw [if_neg h3] at h
      by_cases h4 : b.toNat < 0xF0
      · rw [if_pos h4] at h
        exact width_of_assemble h
      rw [if_neg h4] at h
      by_cases h5 : b.toNat < 0xF8
      · rw [if_pos h5] at h
        exact width_of_assemble h
      · rw [if_neg h5] at h
        exact nomatch h

/-- A text read from bytes is not wider than they are. -/
theorem leadingText_width_le (n : Nat) (bytes : Bytes) :
    (leadingText n bytes).width ≤ bytes.length := by
  induction n generalizing bytes with
  | zero => exact Nat.zero_le _
  | succ n ih =>
      rw [leadingText]
      cases hfirst : firstChar? bytes with
      | none => exact Nat.zero_le _
      | some first =>
          obtain ⟨d, w⟩ := first
          obtain ⟨hsize, hle⟩ := width_of_firstChar? hfirst
          have hrest := ih (bytes.drop w)
          rw [List.length_drop] at hrest
          show d.utf8Size + (leadingText n (bytes.drop w)).width ≤ bytes.length
          omega

/-- A length is drawn from what is set aside at the back, and what is before that is left. -/
theorem length_run {bytes : Bytes} (hlong : 1 < bytes.length) :
    length.run bytes =
      (upTo (bytes.length - lengthWidth bytes.length)
        (bytes.drop (bytes.length - lengthWidth bytes.length)),
      bytes.take (bytes.length - lengthWidth bytes.length)) := by
  have hkept : (bytes.take (bytes.length - lengthWidth bytes.length)).length
      = bytes.length - lengthWidth bytes.length := by
    rw [List.length_take]
    omega
  rw [length]
  simp only [StateT.run_bind, StateT.run_get, StateT.run_map, StateT.run_set, bind_pure_comp,
    pure_bind, map_pure, if_neg (Nat.not_le.mpr hlong), hkept]
  rfl

/-- Of bytes that are too few for a length nothing is left. -/
theorem length_run_of_short {bytes : Bytes} (hshort : bytes.length ≤ 1) :
    length.run bytes = (0, []) := by
  rw [length]
  simp only [StateT.run_bind, StateT.run_get, StateT.run_map, StateT.run_set, bind_pure_comp,
    pure_bind, map_pure, if_pos hshort]
  rfl

/-- Drawing a length leaves a beginning of the bytes. -/
theorem length_left_le (bytes : Bytes) : (length.run bytes).2.length ≤ bytes.length := by
  rcases Nat.lt_or_ge 1 bytes.length with hlong | hshort
  · rw [length_run hlong, List.length_take]
    omega
  · rw [length_run_of_short hshort]
    exact Nat.zero_le _

theorem upTo_le (bound : Nat) (bytes : Bytes) : upTo bound bytes ≤ bound :=
  Nat.le_of_lt_succ (Nat.mod_lt _ bound.succ_pos)

/-- **A length that is drawn can be read**: so many bytes are left. -/
theorem length_le_left (bytes : Bytes) :
    (length.run bytes).1 ≤ (length.run bytes).2.length := by
  rcases Nat.lt_or_ge 1 bytes.length with hlong | hshort
  · rw [length_run hlong, List.length_take, Nat.min_eq_left (Nat.sub_le _ _)]
    exact upTo_le _ _
  · rw [length_run_of_short hshort]
    exact Nat.le_refl _

-- two bytes are set aside behind 255 others, and the first of them is enough
example : (length.run (List.replicate 255 0 ++ [7, 9])).1 = 7 := by
  decide +kernel

/-- A text drawn from bytes is not wider than they are. -/
theorem text_width_le (bytes : Bytes) : (Draw.text.run bytes).1.width ≤ bytes.length := by
  have hread := leadingText_width_le (length.run bytes).1
    ((length.run bytes).2.take (length.run bytes).1)
  have hleft := length_left_le bytes
  rw [List.length_take] at hread
  show (leadingText (length.run bytes).1 ((length.run bytes).2.take (length.run bytes).1)).width ≤ _
  omega

end Draw

/-! ## Trials -/

/-- A plan over a text whose positions are words meets every expectation. -/
theorem run_ok (plan : Plan) (fits : plan.text.width < wordLimit) :
    ∃ events, run plan = .ok events := by
  obtain ⟨matchers, hmatchers, hlength⟩ := matchersOf_ok expressions_compile
  have hne : matchers ≠ [] := by
    rintro rfl
    exact nomatch hlength
  obtain ⟨events, hsteps⟩ :=
    steps_ok fits hne plan.actions _ (Cursor.Sound.ofText plan.text Window.standard)
  refine ⟨events, ?_⟩
  rw [run, hmatchers]
  exact hsteps

/-- **Every trial passes**: no plan, and so no bytes, breaks an expectation or meets a fault, and
    the result code is 0.  Nothing in it depends on how expressions are searched for: the steps of
    a plan pass with any matchers, whatever spans they report. -/
theorem trial_passes :
    (∀ (matchers : List Matcher) (plan : Plan), matchers ≠ [] → plan.text.width < wordLimit →
      ∃ events,
        steps matchers (Cursor.ofText plan.text Window.standard) plan.actions = .ok events) ∧
    (∀ plan : Plan, plan.text.width < wordLimit → ∃ events, run plan = .ok events) ∧
    ∀ bytes : Bytes, bytes.length < wordLimit → ∃ events, runBytes bytes = .ok (0, events) := by
  refine ⟨fun matchers plan hne fits => ?_, run_ok, fun bytes fits => ?_⟩
  · exact steps_ok fits hne plan.actions _ (Cursor.Sound.ofText plan.text Window.standard)
  · have hwidth : (Plan.ofBytes bytes).text.width ≤ bytes.length := Draw.text_width_le bytes
    obtain ⟨events, hrun⟩ := run_ok (Plan.ofBytes bytes) (by omega)
    refine ⟨events, ?_⟩
    rw [runBytes, hrun]
    rfl

/-- A trial of a character of two bytes passes with a matcher that points inside it, with the
    expressions, and so does a trial that bytes decide. -/
theorem trial_passes_on_two_bytes :
    [Matcher.fixed ⟨1, 2⟩] ≠ [] ∧ Text.width ['é'] < wordLimit ∧
      ([0xC3, 0xA9, 1, 2] : Bytes).length < wordLimit ∧
      (∃ events, steps [Matcher.fixed ⟨1, 2⟩] (Cursor.ofText ['é'] Window.standard)
        [.skipUntil (.regex 6), .take 255, .moveTo (wordLimit - 1), .charFrom 1] = .ok events) ∧
      (∃ events, run ⟨['é'], [.scan (.regex 7), .reset, .check (.char 'é')]⟩ = .ok events) ∧
      ∃ events, runBytes [0xC3, 0xA9, 1, 2] = .ok (0, events) :=
  ⟨List.cons_ne_nil _ _, by decide, by decide,
    trial_passes.1 _ ⟨['é'], _⟩ (List.cons_ne_nil _ _) (by decide),
    trial_passes.2.1 _ (by decide), trial_passes.2.2 _ (by decide)⟩

end TextCursor.Trial
