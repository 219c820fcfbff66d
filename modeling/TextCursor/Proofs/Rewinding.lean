import TextCursor.Proofs.Conservation
import TextCursor.Proofs.Remainders

/-! # Rewinding is exact

    Whoever tries something and goes back wants to find everything as it was.  A
    cursor that goes back to an offset it had before is at the same place of the
    same text; its latest match is another one, and it may show itself through
    another window.  Neither is ever looked at to answer a command, apart from the
    two that show the cursor itself.

    `Cursor.Resembles` relates two such cursors.  Commands keep the relation
    (`perform_resembles`), and from the first command that settles the latest match
    on, it is the same one again.  The run follows by induction over the commands.

    That going back ends exactly at the offset needs the invariant of cursors: the
    offset is a boundary, so that a move there is not rounded. -/

namespace TextCursor

namespace Command

/-- A command that shows the cursor itself. -/
def IsRendering : Command → Prop
  | .summary | .render => True
  | _ => False

/-- A command after which the latest match does not depend on what it was before: an attempt that
    matches, or one of the two that forget it. -/
def Settles : Command → Reply → Prop
  | .attempt _ _, reply => reply ≠ .nothing
  | .reset, _ | .terminate, _ => True
  | _, _ => False

/-- Among the commands up to an index, one has settled the latest match. -/
def SettledBy (commands : List Command) (answers : List Performed) (i : Nat) : Prop :=
  ∃ j ≤ i, ∃ command p, commands[j]? = some command ∧ answers[j]? = some p ∧
    command.Settles p.reply

variable {command : Command} {commands : List Command} {p : Performed} {answers : List Performed}

/-- Up to the first command only that one can have settled the latest match. -/
theorem settles_of_settledBy_zero (h : SettledBy (command :: commands) (p :: answers) 0) :
    command.Settles p.reply := by
  obtain ⟨j, hj, command', p', hcommand, hp, hsettles⟩ := h
  obtain rfl := Nat.le_zero.mp hj
  obtain rfl := Option.some.inj hcommand
  obtain rfl := Option.some.inj hp
  exact hsettles

/-- The latest match was settled by the first command or behind it. -/
theorem settledBy_of_succ {i : Nat} (h : SettledBy (command :: commands) (p :: answers) (i + 1)) :
    command.Settles p.reply ∨ SettledBy commands answers i := by
  obtain ⟨j, hj, command', p', hcommand, hp, hsettles⟩ := h
  cases j with
  | zero => exact .inl (settles_of_settledBy_zero ⟨0, Nat.le_refl 0, _, _, hcommand, hp, hsettles⟩)
  | succ j => exact .inr ⟨j, Nat.le_of_succ_le_succ hj, _, _, hcommand, hp, hsettles⟩

end Command

namespace Cursor

variable {c d : Cursor} {text front back : Text} {settled : Prop}

/-! ## Cursors at the same place -/

/-- Two cursors at the same place of the same text.  Their windows may differ, and so may their
    latest matches as long as those are not settled. -/
structure Resembles (settled : Prop) (c d : Cursor) : Prop where
  text_eq : c.text = d.text
  offset_eq : c.offset = d.offset
  latest_eq : settled → c.latest = d.latest

namespace Resembles

/-- As long as less is settled, less has to agree. -/
theorem imp {earlier : Prop} (h : c.Resembles settled d) (himp : earlier → settled) :
    c.Resembles earlier d :=
  ⟨h.text_eq, h.offset_eq, fun hearlier => h.latest_eq (himp hearlier)⟩

/-- Cursors that resemble one another stand between the same texts. -/
theorem between (h : c.Resembles settled d) (hb : c.Between front back) :
    d.Between front back := by
  refine ⟨?_, ?_⟩
  · rw [← h.text_eq, hb.text_eq]
  · rw [← h.offset_eq, hb.offset_eq]

theorem rest_eq (h : c.Resembles settled d) : c.rest = d.rest := by
  rw [rest, rest, h.text_eq, h.offset_eq]

theorem atEnd_eq (h : c.Resembles settled d) : c.atEnd = d.atEnd := by
  rw [atEnd, atEnd, h.text_eq, h.offset_eq]

/-- Two moves to the same offset. -/
theorem moved (h : c.Resembles settled d) {offset offset' : Nat} (hoffset : offset = offset') :
    { c with offset := offset }.Resembles settled { d with offset := offset' } :=
  ⟨h.text_eq, hoffset, h.latest_eq⟩

/-- Two matches of the same text. -/
theorem matched (h : c.Resembles settled d) {offset offset' : Nat} (hoffset : offset = offset')
    (latest : Option Text) (always : Prop) :
    { c with offset := offset, latest := latest }.Resembles always
      { d with offset := offset', latest := latest } :=
  ⟨h.text_eq, hoffset, fun _ => rfl⟩

/-- Attempts at the same place come to the same, and a match settles what the latest one is. -/
theorem attempt_ok (h : c.Resembles settled d) (hb : c.Between front back)
    (fits : c.text.width < wordLimit) (m : Matcher) (advance anchored : Bool) :
    ∃ a b, c.attempt m advance anchored = .ok a ∧ d.attempt m advance anchored = .ok b ∧
      a.consumed = b.consumed ∧ a.event = b.event ∧
      a.cursor.Resembles (settled ∨ a.consumed ≠ none) b.cursor := by
  have hb' := h.between hb
  have fits' : d.text.width < wordLimit := h.text_eq ▸ fits
  cases hfind : m.find back anchored with
  | none =>
      refine ⟨_, _, hb.attempt_of_find_none hfind advance, hb'.attempt_of_find_none hfind advance,
        rfl, ?_, ?_⟩
      · simp [h.offset_eq]
      · exact h.imp (by simp)
  | some found =>
      have hsame := hb.consumedBy_congr hb' fits fits' found anchored
      cases hcons : c.consumedBy found anchored with
      | none =>
          refine ⟨_, _, hb.attempt_of_consumedBy_none hfind hcons advance,
            hb'.attempt_of_consumedBy_none hfind (hsame.symm.trans hcons) advance, rfl, rfl, ?_⟩
          exact h.imp (by simp)
      | some t =>
          refine ⟨_, _, hb.attempt_of_consumedBy_some fits hfind hcons advance,
            hb'.attempt_of_consumedBy_some fits' hfind (hsame.symm.trans hcons) advance, rfl, ?_, ?_⟩
          · simp [h.offset_eq]
          · exact h.matched (by simp [h.offset_eq]) (some t) _

theorem peek_eq (h : c.Resembles settled d) (length : Nat) : c.peek length = d.peek length := by
  simp only [peek, h.text_eq, h.offset_eq]

theorem charFrom_eq (h : c.Resembles settled d) (index : Nat) :
    c.charFrom index = d.charFrom index := by
  simp only [charFrom, h.text_eq]

end Resembles

/-! ## Commands -/

/-- The same command at the same place: the same answer, unless it shows the cursor, the same
    events, and cursors at the same place again. -/
structure PerformsAlike (settled : Prop) (command : Command) (p q : Performed) : Prop where
  reply_eq : ¬ command.IsRendering → p.reply = q.reply
  events_eq : p.events = q.events
  resembles : p.cursor.Resembles (settled ∨ command.Settles p.reply) q.cursor

/-- The same answer at the same place, which settles nothing. -/
theorem Resembles.stayed (h : c.Resembles settled d) (command : Command) (reply : Reply)
    (hsettles : ¬ command.Settles reply) :
    PerformsAlike settled command ⟨reply, c, []⟩ ⟨reply, d, []⟩ := by
  refine ⟨fun _ => rfl, rfl, h.imp ?_⟩
  rintro (hsettled | hnow)
  · exact hsettled
  · exact absurd hnow hsettles

/-- One command keeps cursors at the same place. -/
theorem perform_resembles (hc : c.Sound text) (fits : text.width < wordLimit)
    (h : c.Resembles settled d) (command : Command) :
    ∃ p q, c.perform command = .ok p ∧ d.perform command = .ok q ∧
      PerformsAlike settled command p q := by
  obtain ⟨front, back, hb⟩ := hc.between
  have hb' := h.between hb
  have fitsc : c.text.width < wordLimit := hc.text_eq ▸ fits
  have fitsd : d.text.width < wordLimit := h.text_eq ▸ fitsc
  cases command with
  | attempt mode m =>
      obtain ⟨a, b, ha, hb, hconsumed, hevent, hcursor⟩ :=
        h.attempt_ok hb fitsc m mode.advances mode.anchored
      refine ⟨⟨mode.reply a.consumed, a.cursor, [a.event]⟩,
        ⟨mode.reply b.consumed, b.cursor, [b.event]⟩, ?_, ?_, ?_, ?_, ?_⟩
      · rw [perform, attemptBy_eq, ha]
        rfl
      · rw [perform, attemptBy_eq, hb]
        rfl
      · intro _
        rw [hconsumed]
      · rw [hevent]
      · refine hcursor.imp ?_
        rintro (hsettled | hmatched)
        · exact .inl hsettled
        · exact .inr fun hnone => hmatched ((mode.reply_eq_nothing_iff _).mpr hnone)
  | peek length =>
      obtain ⟨taken, -, -, hok⟩ := hb.peek_ok fitsc length
      refine ⟨⟨.text taken, c, []⟩, ⟨.text taken, d, []⟩, ?_, ?_, h.stayed _ _ id⟩
      · rw [perform, hok]
        rfl
      · rw [perform, ← h.peek_eq, hok]
        rfl
  | take length =>
      obtain ⟨taken, rest, hback, hok⟩ := hb.peek_ok fitsc length
      have hok' := (h.peek_eq length).symm.trans hok
      refine ⟨⟨.text taken, { c with offset := c.offset + taken.width }, []⟩,
        ⟨.text taken, { d with offset := d.offset + taken.width }, []⟩, ?_, ?_, ?_⟩
      · rw [perform, hb.take_of_peek fitsc hback hok]
        rfl
      · rw [perform, hb'.take_of_peek fitsd hback hok']
        rfl
      · exact (h.moved (by rw [h.offset_eq])).stayed (.take length) (.text taken) id
  | moveTo position =>
      obtain ⟨front', back', -, hok, -, -⟩ := Text.boundaryBelow_ok c.text position
      refine ⟨⟨.number front'.width, { c with offset := front'.width }, []⟩,
        ⟨.number front'.width, { d with offset := front'.width }, []⟩, ?_, ?_, ?_⟩
      · rw [perform, moveTo, hok]
        rfl
      · rw [perform, moveTo, ← h.text_eq, hok]
        rfl
      · exact (h.moved rfl).stayed (.moveTo position) (.number front'.width) id
  | charFrom index =>
      obtain ⟨answer, hok, -⟩ := charFrom_ok c index
      refine ⟨⟨.ofChar? answer, c, []⟩, ⟨.ofChar? answer, d, []⟩, ?_, ?_, h.stayed _ _ id⟩
      · rw [perform, hok]
        rfl
      · rw [perform, ← h.charFrom_eq, hok]
        rfl
  | text =>
      refine ⟨_, _, rfl, rfl, ?_⟩
      rw [h.text_eq]
      exact h.stayed _ _ id
  | rest =>
      refine ⟨⟨.text back, c, []⟩, ⟨.text back, d, []⟩, ?_, ?_, h.stayed _ _ id⟩
      · rw [perform, hb.rest_eq]
        rfl
      · rw [perform, hb'.rest_eq]
        rfl
  | atEnd =>
      refine ⟨_, _, rfl, rfl, ?_⟩
      rw [h.atEnd_eq]
      exact h.stayed _ _ id
  | summary =>
      obtain ⟨t, hok⟩ := hb.summary_ok
      obtain ⟨t', hok'⟩ := hb'.summary_ok
      refine ⟨⟨.text t, c, []⟩, ⟨.text t', d, []⟩, ?_, ?_, ?_⟩
      · rw [perform, hok]
        rfl
      · rw [perform, hok']
        rfl
      · -- what is shown may differ, and nothing else does
        exact ⟨fun hnot => absurd trivial hnot, rfl, h.imp (by simp [Command.Settles])⟩
  | render =>
      refine ⟨_, _, rfl, rfl, ?_⟩
      exact ⟨fun hnot => absurd trivial hnot, rfl, h.imp (by simp [Command.Settles])⟩
  | reset => exact ⟨_, _, rfl, rfl, fun _ => rfl, rfl, h.matched rfl none _⟩
  | terminate =>
      refine ⟨_, _, rfl, rfl, fun _ => rfl, rfl, h.matched ?_ none _⟩
      rw [h.text_eq]

/-! ## Runs -/

/-- An answer and the answer of another run to the same command: they agree, unless the command
    shows the cursor, and leave cursors at the same place of the same text, with the same latest
    match as soon as one is settled. -/
structure Replays (settled : Prop) (command : Command) (p q : Performed) : Prop where
  reply_eq : ¬ command.IsRendering → p.reply = q.reply
  events_eq : p.events = q.events
  offset_eq : p.cursor.offset = q.cursor.offset
  rest_eq : ∃ rest, p.cursor.rest = .ok rest ∧ q.cursor.rest = .ok rest
  atEnd_eq : p.cursor.atEnd = q.cursor.atEnd
  latest_eq : settled → p.cursor.latest = q.cursor.latest

/-- What is performed alike is a replay. -/
theorem PerformsAlike.replays {command : Command} {p q : Performed} {now : Prop}
    (h : PerformsAlike settled command p q) (hp : p.cursor.Sound text)
    (hnow : now → settled ∨ command.Settles p.reply) : Replays now command p q := by
  obtain ⟨front, back, hb⟩ := hp.between
  exact ⟨h.reply_eq, h.events_eq, h.resembles.offset_eq,
    ⟨back, hb.rest_eq, (h.resembles.between hb).rest_eq⟩, h.resembles.atEnd_eq,
    fun hsettled => h.resembles.latest_eq (hnow hsettled)⟩

/-- Runs of the same commands at the same place replay each other. -/
theorem performAll_replays (fits : text.width < wordLimit) (commands : List Command) :
    ∀ (settled : Prop) (c d : Cursor), c.Sound text → c.Resembles settled d →
      ∃ answers answers', c.performAll commands = .ok answers ∧
        d.performAll commands = .ok answers' ∧ answers.length = commands.length ∧
        answers'.length = commands.length ∧
        ∀ (i : Nat) (command : Command) (p q : Performed), commands[i]? = some command →
          answers[i]? = some p → answers'[i]? = some q →
            Replays (settled ∨ Command.SettledBy commands answers i) command p q := by
  induction commands with
  | nil =>
      intro settled c d _ _
      exact ⟨[], [], rfl, rfl, rfl, rfl, fun i command p q hcommand => nomatch hcommand⟩
  | cons command commands ih =>
      intro settled c d hc h
      obtain ⟨p, q, hp, hq, halike⟩ := perform_resembles hc fits h command
      obtain ⟨p', hp', hsound⟩ := perform_sound hc fits command
      obtain rfl := Except.ok.inj (hp.symm.trans hp')
      obtain ⟨answers, answers', hok, hok', hlength, hlength', hall⟩ :=
        ih _ p.cursor q.cursor hsound halike.resembles
      refine ⟨p :: answers, q :: answers', ?_, ?_, by simp [hlength], by simp [hlength'], ?_⟩
      · rw [performAll, hp, ok_bind, hok]
        rfl
      · rw [performAll, hq, ok_bind, hok']
        rfl
      · intro i command' p' q' hcommand' hp' hq'
        cases i with
        | zero =>
            obtain rfl := Option.some.inj hcommand'
            obtain rfl := Option.some.inj hp'
            obtain rfl := Option.some.inj hq'
            exact halike.replays hsound (Or.imp_right Command.settles_of_settledBy_zero)
        | succ i =>
            have hreplays := hall i command' p' q' hcommand' hp' hq'
            refine { hreplays with latest_eq := ?_ }
            rintro (hsettled | hby)
            · exact hreplays.latest_eq (.inl (.inl hsettled))
            · exact hreplays.latest_eq ((Command.settledBy_of_succ hby).imp_left .inr)

/-- The cursor after a run is sound. -/
theorem Sound.afterAll (h : c.Sound text) {answers : List Performed}
    (hall : ∀ p ∈ answers, p.cursor.Sound text) : (c.afterAll answers).Sound text := by
  induction answers generalizing c with
  | nil => exact h
  | cons p answers ih =>
      obtain ⟨hp, hanswers⟩ := List.forall_mem_cons.mp hall
      exact ih hp hanswers

/-- Another window keeps a cursor sound. -/
theorem Sound.withWindow (h : c.Sound text) (window : Window) :
    { c with window := window }.Sound text := by
  obtain ⟨front, back, hb⟩ := h.between
  exact of_between ⟨hb.text_eq, hb.offset_eq⟩ h.text_eq h.latest_slice

/-- A move to a place where another cursor over the text stands ends exactly there. -/
theorem Sound.moveTo_offset (hd : d.Sound text) (hc : c.Sound text) :
    d.moveTo c.offset = .ok (c.offset, { d with offset := c.offset }) := by
  obtain ⟨front, back, hb⟩ := hc.between
  rw [hb.offset_eq]
  exact moveTo_width (hd.text_eq.trans (hc.text_eq.symm.trans hb.text_eq))

/-- **Rewinding is exact**: whatever a cursor has done since, a move to its offset from before ends
    exactly there, and from then on each command is answered as it would have been at once.  Neither
    the windows of the two cursors nor the latest match take part in this, and the latest matches
    agree again as soon as one is settled. -/
theorem rewinding_is_exact (h : c.Reached text) (fits : text.width < wordLimit)
    (window : Window) (detour commands : List Command) :
    ∃ passed moved answers answers',
      { c with window := window }.performAll detour = .ok passed ∧
      ({ c with window := window }.afterAll passed).perform (.moveTo c.offset) = .ok moved ∧
      moved.reply = .number c.offset ∧ moved.cursor.offset = c.offset ∧
      moved.cursor.rest = c.rest ∧ moved.cursor.atEnd = c.atEnd ∧
      moved.cursor.performAll commands = .ok answers ∧
      c.performAll commands = .ok answers' ∧
      answers.length = commands.length ∧ answers'.length = commands.length ∧
      ∀ (i : Nat) (command : Command) (p q : Performed), commands[i]? = some command →
        answers[i]? = some p → answers'[i]? = some q →
          Replays (Command.SettledBy commands answers i) command p q := by
  have hsound := h.sound fits
  obtain ⟨passed, hpassed, -, hall⟩ := performAll_sound fits detour _ (hsound.withWindow window)
  have hafter := (hsound.withWindow window).afterAll hall
  have hmove := hafter.moveTo_offset hsound
  generalize hd : { c with window := window }.afterAll passed = d at hafter hmove
  have hmoved : { d with offset := c.offset }.Sound text := by
    obtain ⟨front, back, hb⟩ := hsound.between
    rw [hb.offset_eq]
    exact hafter.withOffset (hsound.text_eq.symm.trans hb.text_eq)
  -- nothing is settled yet: the detour may have left another latest match
  have hresembles : { d with offset := c.offset }.Resembles False c :=
    ⟨hafter.text_eq.trans hsound.text_eq.symm, rfl, False.elim⟩
  obtain ⟨answers, answers', hok, hok', hlength, hlength', hreplays⟩ :=
    performAll_replays fits commands False _ c hmoved hresembles
  refine ⟨passed, ⟨.number c.offset, { d with offset := c.offset }, []⟩, answers, answers',
    hpassed, ?_, rfl, rfl, hresembles.rest_eq, hresembles.atEnd_eq, hok, hok', hlength, hlength', ?_⟩
  · rw [hd, perform, hmove]
    rfl
  · intro i command p q hcommand hp hq
    simpa using hreplays i command p q hcommand hp hq

/-- Between two characters of two bytes: a seek and a `reset` on the way, another window, and a
    match that settles the latest one. -/
theorem rewinding_is_exact_between_two_chars :
    (⟨['é', 'è', 'a'], 2, none, Window.standard⟩ : Cursor).Reached ['é', 'è', 'a'] ∧
      Text.width ['é', 'è', 'a'] < wordLimit ∧
      ∃ passed moved answers answers',
        (⟨['é', 'è', 'a'], 2, none, ⟨1, 0⟩⟩ : Cursor).performAll
          [.attempt .scanUntil (.literal ['a']), .reset, .moveTo 3] = .ok passed ∧
        ((⟨['é', 'è', 'a'], 2, none, ⟨1, 0⟩⟩ : Cursor).afterAll passed).perform (.moveTo 2) =
          .ok moved ∧
        moved.reply = .number 2 ∧
        moved.cursor.performAll [.summary, .attempt .check (.char 'è')] = .ok answers ∧
        (⟨['é', 'è', 'a'], 2, none, Window.standard⟩ : Cursor).performAll
          [.summary, .attempt .check (.char 'è')] = .ok answers' ∧
        ∀ p q, answers[1]? = some p → answers'[1]? = some q → p.reply = q.reply := by
  have hstart : (Cursor.ofText ['é', 'è', 'a'] Window.standard).perform (.moveTo 2) =
      .ok ⟨.number 2, ⟨['é', 'è', 'a'], 2, none, Window.standard⟩, []⟩ := by rfl
  have hreached := Reached.command _ (.start Window.standard) hstart
  refine ⟨hreached, by decide, ?_⟩
  obtain ⟨passed, moved, answers, answers', hpassed, hmoved, hreply, -, -, -, hok, hok', -, -,
      hreplays⟩ := rewinding_is_exact hreached (by decide) ⟨1, 0⟩
    [.attempt .scanUntil (.literal ['a']), .reset, .moveTo 3]
    [.summary, .attempt .check (.char 'è')]
  refine ⟨passed, moved, answers, answers', hpassed, hmoved, hreply, hok, hok', ?_⟩
  intro p q hp hq
  exact (hreplays 1 _ p q rfl hp hq).reply_eq id

end Cursor

end TextCursor
