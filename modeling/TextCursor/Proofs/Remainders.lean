import TextCursor.Proofs.CursorSafety

/-! # A cursor behind a front part

    A cursor in the middle of a text works on what is left of it as a new cursor
    over that part would: what stands before it only adds to the positions.

    `Cursor.behind` puts a text in front of a cursor.  The route is equivariance:
    performing a command behind a front part is performing it without one and
    moving the answer, which is proved once for every command (`perform_behind`)
    and carried over a run.  Absolute positions enter in three places only, sums
    with the offset, clamping to the width of the text and the search for a
    boundary, and each of them has its lemma about the rest alone. -/

namespace TextCursor

/-! ## Commands and answers behind a front part -/

/-- A command that asks for nothing before the place where the cursor started. -/
def Command.IsLocal : Command → Prop
  | .text | .summary | .render | .reset => False
  | _ => True

/-- The command behind so many bytes: positions are absolute, lengths are not. -/
def Command.behind (offset : Nat) : Command → Command
  | .moveTo position => .moveTo (offset + position)
  | .charFrom index => .charFrom (offset + index)
  | command => command

/-- The answer to a command behind so many bytes.  Only a move answers with a position. -/
def Command.answerBehind (offset : Nat) : Command → Reply → Reply
  | .moveTo _, .number n => .number (offset + n)
  | _, reply => reply

/-- The event behind so many bytes.  The span of a matcher is one of the rest already. -/
def AttemptEvent.behind (offset : Nat) : AttemptEvent → AttemptEvent
  | .noMatch start anchored advance => .noMatch (offset + start) anchored advance
  | .matched start stop anchored advance consumed =>
    .matched (offset + start) (offset + stop) anchored advance consumed
  | .brokenContract found anchored => .brokenContract found anchored

namespace Cursor

/-- A cursor at the same place of the same text, behind another text. -/
def behind (front : Text) (window : Window) (c : Cursor) : Cursor :=
  ⟨front ++ c.text, front.width + c.offset, c.latest, window⟩

end Cursor

/-- What a command comes to behind a front part. -/
def Performed.behind (front : Text) (window : Window) (command : Command) (p : Performed) :
    Performed :=
  ⟨command.answerBehind front.width p.reply, p.cursor.behind front window,
    p.events.map (·.behind front.width)⟩

namespace Cursor

variable {c d : Cursor} {text front back front' : Text}

/-- Behind a base the cursor stands between the base with the same front, and the same back. -/
theorem Between.behind (h : c.Between front back) (base : Text) (window : Window) :
    (c.behind base window).Between (base ++ front) back := by
  refine ⟨?_, ?_⟩
  · simp only [Cursor.behind, h.text_eq, List.append_assoc]
  · simp only [Cursor.behind, h.offset_eq, Text.width_append]

/-- A cursor that has matched nothing yet is a new one over its rest, behind what it has passed. -/
theorem Between.eq_behind (h : c.Between front back) (hlatest : c.latest = none)
    (window : Window) : c = (Cursor.ofText back window).behind front c.window := by
  obtain ⟨text, offset, latest, shown⟩ := c
  obtain rfl : latest = none := hlatest
  obtain rfl : text = front ++ back := h.text_eq
  obtain rfl : offset = front.width := h.offset_eq
  rfl

/-! ## What depends on the rest alone -/

/-- Two cursors before the same rest consume the same text by the same span. -/
theorem Between.consumedBy_congr (hc : c.Between front back) (hd : d.Between front' back)
    (fitsc : c.text.width < wordLimit) (fitsd : d.text.width < wordLimit) (found : Span)
    (anchored : Bool) : c.consumedBy found anchored = d.consumedBy found anchored := by
  ext t
  rw [hc.consumedBy_eq_some_iff fitsc, hd.consumedBy_eq_some_iff fitsd]

/-- A peek rounds up in the rest, however close the offset is to the greatest word. -/
theorem Between.peek_eq (h : c.Between front back) (fits : c.text.width < wordLimit)
    (length : Nat) : c.peek length = back.boundaryAbove length >>= back.slice 0 := by
  have habove : c.text.boundaryAbove (saturatingSum c.offset length) =
      (back.boundaryAbove length).map (front.width + ·) := by
    rw [← Text.boundaryAbove_width_add, ← h.text_eq, ← h.offset_eq]
    simp only [Text.boundaryAbove, min_saturatingSum fits]
  rw [peek, habove]
  cases back.boundaryAbove length with
  | error fault => rfl
  | ok stop =>
      show c.text.slice c.offset (front.width + stop) = back.slice 0 stop
      rw [h.text_eq, h.offset_eq]
      exact Text.slice_width_add front back 0 stop

/-! ## Every command behind a front part -/

section
variable (base : Text) (window : Window)

/-- A text fits if it fits behind another one. -/
theorem fits_of_behind (fits : (c.behind base window).text.width < wordLimit) :
    c.text.width < wordLimit := by
  simp only [behind, Text.width_append] at fits
  omega

/-- An attempt looks at the rest only: behind a base it is the same, with its positions moved. -/
theorem attempt_behind (h : c.Between front back)
    (fits : (c.behind base window).text.width < wordLimit) (m : Matcher)
    (advance anchored : Bool) :
    (c.behind base window).attempt m advance anchored =
      (c.attempt m advance anchored).map fun a =>
        ⟨a.consumed, a.cursor.behind base window, a.event.behind base.width⟩ := by
  have hb := h.behind base window
  have fits' := fits_of_behind base window fits
  cases hfind : m.find back anchored with
  | none =>
      rw [hb.attempt_of_find_none hfind, h.attempt_of_find_none hfind]
      rfl
  | some found =>
      have hsame := hb.consumedBy_congr h fits fits' found anchored
      cases hcons : c.consumedBy found anchored with
      | none =>
          rw [hb.attempt_of_consumedBy_none hfind (hsame.trans hcons),
            h.attempt_of_consumedBy_none hfind hcons]
          rfl
      | some t =>
          rw [hb.attempt_of_consumedBy_some fits hfind (hsame.trans hcons),
            h.attempt_of_consumedBy_some fits' hfind hcons]
          cases advance <;> simp [behind, Except.map, AttemptEvent.behind, Nat.add_assoc]

/-- A peek looks at the rest only. -/
theorem peek_behind (h : c.Between front back)
    (fits : (c.behind base window).text.width < wordLimit) (length : Nat) :
    (c.behind base window).peek length = c.peek length := by
  have fits' := fits_of_behind base window fits
  rw [(h.behind base window).peek_eq fits, h.peek_eq fits']

/-- What is taken is the same behind a base. -/
theorem take_behind (h : c.Between front back)
    (fits : (c.behind base window).text.width < wordLimit) (length : Nat) :
    (c.behind base window).take length =
      (c.take length).map fun (taken, c') => (taken, c'.behind base window) := by
  have fits' := fits_of_behind base window fits
  obtain ⟨taken, rest, hback, hpeek⟩ := h.peek_ok fits' length
  have hpeek' := (peek_behind base window h fits length).trans hpeek
  rw [(h.behind base window).take_of_peek fits hback hpeek', h.take_of_peek fits' hback hpeek]
  simp [behind, Except.map, Nat.add_assoc]

/-- A move to a position behind the base is the move to that position, moved. -/
theorem moveTo_behind (c : Cursor) (position : Nat) :
    (c.behind base window).moveTo (base.width + position) =
      (c.moveTo position).map fun (stored, c') =>
        (base.width + stored, c'.behind base window) := by
  have hbelow : (c.behind base window).text.boundaryBelow (base.width + position) =
      (c.text.boundaryBelow position).map (base.width + ·) :=
    Text.boundaryBelow_width_add base c.text position
  rw [moveTo, moveTo, hbelow]
  cases c.text.boundaryBelow position <;> rfl

/-- The characters behind the base are the same. -/
theorem charFrom_behind (c : Cursor) (index : Nat) :
    (c.behind base window).charFrom (base.width + index) = c.charFrom index := by
  simp only [charFrom, behind, Text.width_append, Text.isBoundary_width_add,
    Text.after_width_add, Nat.add_le_add_iff_left]

/-- A command behind a front part is the command without one, with its answer moved. -/
theorem perform_behind (h : c.Sound text) (fits : (base ++ text).width < wordLimit)
    {command : Command} (hlocal : command.IsLocal) :
    (c.behind base window).perform (command.behind base.width) =
      (c.perform command).map (Performed.behind base window command) := by
  obtain ⟨front, back, hb⟩ := h.between
  have fits' : (c.behind base window).text.width < wordLimit := by
    rw [← h.text_eq] at fits
    exact fits
  cases command with
  | attempt mode m =>
      show (c.behind base window).attemptBy mode m = (c.attemptBy mode m).map _
      rw [attemptBy_eq, attemptBy_eq, attempt_behind base window hb fits']
      cases c.attempt m mode.advances mode.anchored <;> rfl
  | peek length =>
      simp only [perform, Command.behind, peek_behind base window hb fits']
      cases c.peek length <;> rfl
  | take length =>
      simp only [perform, Command.behind, take_behind base window hb fits']
      cases c.take length <;> rfl
  | moveTo position =>
      simp only [perform, Command.behind, moveTo_behind]
      cases c.moveTo position <;> rfl
  | charFrom index =>
      simp only [perform, Command.behind, charFrom_behind]
      cases c.charFrom index <;> rfl
  | rest =>
      have hrest : (c.behind base window).rest = c.rest :=
        Text.after_width_add base c.text c.offset
      simp only [perform, Command.behind, hrest]
      cases c.rest <;> rfl
  | atEnd =>
      simp [perform, Command.behind, Command.answerBehind, Performed.behind, atEnd, behind,
        Except.map]
  | terminate =>
      simp [perform, Command.behind, Command.answerBehind, Performed.behind, terminate, behind,
        Except.map]
  | text => exact hlocal.elim
  | summary => exact hlocal.elim
  | render => exact hlocal.elim
  | reset => exact hlocal.elim

/-- Commands behind a front part are the commands without one, with their answers moved. -/
theorem performAll_behind (fits : (base ++ text).width < wordLimit) (commands : List Command) :
    ∀ c : Cursor, c.Sound text → (∀ command ∈ commands, command.IsLocal) →
      (c.behind base window).performAll (commands.map (·.behind base.width)) =
        (c.performAll commands).map (List.zipWith (Performed.behind base window) commands) := by
  have fits' : text.width < wordLimit := by
    rw [Text.width_append] at fits
    omega
  induction commands with
  | nil => exact fun c _ _ => rfl
  | cons command commands ih =>
      intro c h hlocal
      obtain ⟨hhead, htail⟩ := List.forall_mem_cons.mp hlocal
      obtain ⟨p, hp, hsound⟩ := perform_sound h fits' command
      obtain ⟨answers, hall, -, -⟩ := performAll_sound fits' commands p.cursor hsound
      have hmoved : (c.behind base window).perform (command.behind base.width) =
          .ok (Performed.behind base window command p) := by
        rw [perform_behind base window h fits hhead, hp]
        rfl
      have hrest := ih p.cursor hsound htail
      rw [List.map_cons, performAll, performAll, hmoved, hp, ok_bind, ok_bind]
      simp only [Performed.behind, hrest, hall]
      rfl

end

/-! ## Cursors in the middle of a text -/

/-- An answer in the middle of a text, at so many bytes, and the answer to the same command of a
    cursor over the rest alone. -/
structure Corresponds (offset : Nat) (command : Command) (p q : Performed) : Prop where
  reply_eq : p.reply = command.answerBehind offset q.reply
  events_eq : p.events = q.events.map (·.behind offset)
  offset_eq : p.cursor.offset = offset + q.cursor.offset
  rest_eq : ∃ rest, p.cursor.rest = .ok rest ∧ q.cursor.rest = .ok rest
  latest_eq : p.cursor.latest = q.cursor.latest

/-- What is performed behind a front part corresponds to what is performed without one. -/
theorem Sound.corresponds {p : Performed} (h : p.cursor.Sound text) (base : Text)
    (window : Window) (command : Command) :
    Corresponds base.width command (p.behind base window command) p := by
  obtain ⟨front, back, hb⟩ := h.between
  exact ⟨rfl, rfl, rfl, ⟨back, (hb.behind base window).rest_eq, hb.rest_eq⟩, rfl⟩

/-- **A cursor in the middle of a text acts as a new one over its rest**, whatever the commands
    and matchers: each of its answers corresponds to the one that the new cursor gives. -/
theorem acts_as_new_over_rest (h : c.Reached text) (hlatest : c.latest = none)
    (fits : text.width < wordLimit) :
    ∃ rest, c.rest = .ok rest ∧ ∀ (window : Window) (commands : List Command),
      (∀ command ∈ commands, command.IsLocal) →
        ∃ answers answers', c.performAll (commands.map (·.behind c.offset)) = .ok answers ∧
          (Cursor.ofText rest window).performAll commands = .ok answers' ∧
          answers.length = commands.length ∧ answers'.length = commands.length ∧
          ∀ (i : Nat) (command : Command) (p q : Performed), commands[i]? = some command →
            answers[i]? = some p → answers'[i]? = some q →
              Corresponds c.offset command p q := by
  have hsound := h.sound fits
  obtain ⟨front, back, hb⟩ := hsound.between
  have htext : text = front ++ back := hsound.text_eq.symm.trans hb.text_eq
  have fits' : back.width < wordLimit := by
    rw [htext, Text.width_append] at fits
    omega
  refine ⟨back, hb.rest_eq, ?_⟩
  intro window commands hlocal
  have hnew := Sound.ofText back window
  obtain ⟨answers', hok, hlength, hsounds⟩ := performAll_sound fits' commands _ hnew
  have hmoved := performAll_behind front c.window (htext ▸ fits) commands _ hnew hlocal
  rw [← hb.eq_behind hlatest window, ← hb.offset_eq, hok] at hmoved
  refine ⟨_, answers', hmoved, hok, ?_, hlength, ?_⟩
  · rw [List.length_zipWith, hlength, Nat.min_self]
  · intro i command p q hcommand hp hq
    rw [List.getElem?_zipWith, hcommand, hq] at hp
    obtain rfl := Option.some.inj hp
    rw [hb.offset_eq]
    exact (hsounds q (List.mem_of_getElem? hq)).corresponds front c.window command

/-- Behind one character, with a span that starts inside the next one, a position inside it and a
    length of the largest word. -/
theorem acts_as_new_over_rest_behind_a_char :
    (⟨['a', 'é', 'b'], 1, none, Window.standard⟩ : Cursor).Reached ['a', 'é', 'b'] ∧
      Text.width ['a', 'é', 'b'] < wordLimit ∧
      ∃ answers answers',
        (⟨['a', 'é', 'b'], 1, none, Window.standard⟩ : Cursor).performAll
          [.attempt .scanUntil (Matcher.fixed ⟨1, 2⟩), .charFrom 3, .moveTo 2,
            .peek (wordLimit - 1)] = .ok answers ∧
        (Cursor.ofText ['é', 'b'] Window.standard).performAll
          [.attempt .scanUntil (Matcher.fixed ⟨1, 2⟩), .charFrom 2, .moveTo 1,
            .peek (wordLimit - 1)] = .ok answers' ∧
        answers.length = 4 ∧ answers'.length = 4 ∧
        ∀ p q, answers[2]? = some p → answers'[2]? = some q →
          Corresponds 1 (.moveTo 1) p q := by
  have hmoved : (Cursor.ofText ['a', 'é', 'b'] Window.standard).perform (.moveTo 1) =
      .ok ⟨.number 1, ⟨['a', 'é', 'b'], 1, none, Window.standard⟩, []⟩ := by rfl
  have hreached := Reached.command _ (.start Window.standard) hmoved
  refine ⟨hreached, by decide, ?_⟩
  obtain ⟨rest, hrest, hall⟩ := acts_as_new_over_rest hreached rfl (by decide)
  obtain rfl : ['é', 'b'] = rest := Except.ok.inj hrest
  obtain ⟨answers, answers', hok, hok', hlength, hlength', hcorr⟩ := hall Window.standard
    [.attempt .scanUntil (Matcher.fixed ⟨1, 2⟩), .charFrom 2, .moveTo 1, .peek (wordLimit - 1)]
    (by simp [Command.IsLocal])
  exact ⟨answers, answers', hok, hok', hlength, hlength', fun p q => hcorr 2 _ p q rfl⟩

end Cursor

end TextCursor
