import Mathlib.Data.List.DropRight
import TextCursor.Proofs.MatchModes
import TextCursor.Proofs.Rewinding

/-! # What the events tell

    Each attempt to match reports one event, and no other command reports any.
    `AttemptEvent.Tells` says what an event tells about the attempt: where it began,
    what it consumed and answered, and where it left the cursor.

    The latest match of a cursor is nowhere else but in these events.  What a
    history tells about it is `latestTold`, a function of the commands and their
    events alone: of the commands since the latest one that forgets, the last event
    that tells of a match.  One more command changes the latest match of the cursor
    as it changes what is told (`perform_latest` and `latestTold_concat`), so the
    two agree at every moment. -/

namespace TextCursor

/-- A command that forgets the latest match. -/
def Command.forgets : Command → Bool
  | .reset | .terminate => true
  | _ => false

/-- The text that an event tells to be consumed. -/
def AttemptEvent.consumed? : AttemptEvent → Option Text
  | .matched _ _ _ _ consumed => some consumed
  | .noMatch _ _ _ | .brokenContract _ _ => none

/-- What an event tells about an attempt by a cursor, given what was performed. -/
inductive AttemptEvent.Tells (c : Cursor) (mode : MatchMode) (m : Matcher) (p : Performed) :
    AttemptEvent → Prop
  /-- The text from the offset to `stop` was consumed, answered and recorded. -/
  | matched {stop : Nat} {t : Text} (hslice : c.text.slice? c.offset stop = some t)
      (hreply : p.reply = mode.reply (some t))
      (hcursor : p.cursor =
        { c with offset := if mode.advances then stop else c.offset, latest := some t }) :
      Tells c mode m p (.matched c.offset stop mode.anchored mode.advances t)
  /-- The matcher has found nothing, and nothing has changed. -/
  | noMatch (hfind : ∀ rest, c.rest = .ok rest → m.find rest mode.anchored = none)
      (hreply : p.reply = .nothing) (hcursor : p.cursor = c) :
      Tells c mode m p (.noMatch c.offset mode.anchored mode.advances)
  /-- The matcher has found what it may not report, and nothing has changed. -/
  | brokenContract {found : Span}
      (hfind : ∀ rest, c.rest = .ok rest → m.find rest mode.anchored = some found)
      (hreply : p.reply = .nothing) (hcursor : p.cursor = c) :
      Tells c mode m p (.brokenContract found mode.anchored)

/-- The latest match that a history tells of: the text of the last event that tells of one, since
    the matches were last forgotten. -/
def latestTold (history : List (Command × Performed)) : Option Text :=
  let since := history.rtakeWhile fun told => !told.1.forgets
  ((since.flatMap fun told => told.2.events).filterMap AttemptEvent.consumed?).getLast?

/-- One more command forgets, tells of a match, or leaves what was told before. -/
theorem latestTold_concat (history : List (Command × Performed)) (command : Command)
    (p : Performed) :
    latestTold (history ++ [(command, p)]) = if command.forgets then none
      else ((p.events.filterMap AttemptEvent.consumed?).getLast?).or (latestTold history) := by
  unfold latestTold
  dsimp only
  rw [List.rtakeWhile_concat]
  cases hforgets : command.forgets with
  | true => simp only [Bool.not_true, Bool.false_eq_true, if_false, if_true, List.flatMap_nil,
      List.filterMap_nil, List.getLast?_nil]
  | false => simp only [Bool.not_false, if_true, Bool.false_eq_true, if_false, List.flatMap_append,
      List.flatMap_singleton, List.filterMap_append, List.getLast?_append]

namespace Cursor

variable {c : Cursor} {text front back : Text} {command : Command} {p : Performed}

/-! ## One command -/

/-- Every attempt reports one event, and what it tells is true. -/
theorem Between.attempt_tells (h : c.Between front back) (fits : c.text.width < wordLimit)
    (mode : MatchMode) (m : Matcher) :
    ∃ p event, c.perform (.attempt mode m) = .ok p ∧ p.events = [event] ∧
      event.Tells c mode m p := by
  have hrest : ∀ {answer : Option Span}, m.find back mode.anchored = answer →
      ∀ rest, c.rest = .ok rest → m.find rest mode.anchored = answer := by
    intro answer hfind rest hrest
    obtain rfl := Except.ok.inj (h.rest_eq.symm.trans hrest)
    exact hfind
  cases hfind : m.find back mode.anchored with
  | none =>
      exact ⟨_, _, h.perform_of_find_none hfind, rfl, .noMatch (hrest hfind) rfl rfl⟩
  | some found =>
      cases hcons : c.consumedBy found mode.anchored with
      | none =>
          exact ⟨_, _, h.perform_of_consumedBy_none hfind hcons, rfl,
            .brokenContract (hrest hfind) rfl rfl⟩
      | some t =>
          obtain ⟨hstop, hslice⟩ := h.slice?_of_consumedBy fits hcons
          rw [hstop] at hslice
          exact ⟨_, _, h.perform_of_consumedBy_some fits hfind hcons, rfl,
            .matched hslice rfl rfl⟩

/-- The event tells of a match if and only if the attempt is answered with something. -/
theorem consumed?_isSome_iff {mode : MatchMode} {m : Matcher} {event : AttemptEvent}
    (h : event.Tells c mode m p) : event.consumed?.isSome = true ↔ p.reply ≠ .nothing := by
  cases h with
  | @matched stop t hslice hreply hcursor =>
      rw [hreply, ne_eq, mode.reply_eq_nothing_iff]
      simp [AttemptEvent.consumed?]
  | noMatch hfind hreply hcursor => simp [AttemptEvent.consumed?, hreply]
  | brokenContract hfind hreply hcursor => simp [AttemptEvent.consumed?, hreply]

/-- A command that attempts no match reports nothing, and forgets the latest match or keeps it. -/
theorem perform_reports_nothing (hperform : c.perform command = .ok p)
    (hother : ∀ mode m, command ≠ .attempt mode m) :
    p.events = [] ∧ p.cursor.latest = if command.forgets then none else c.latest := by
  cases command with
  | attempt mode m => exact absurd rfl (hother mode m)
  | text | atEnd | render | reset | terminate =>
      obtain rfl := Except.ok.inj hperform
      exact ⟨rfl, rfl⟩
  | peek | charFrom | rest | summary =>
      obtain ⟨answer, -, hanswer⟩ := exists_of_bind_eq_ok hperform
      obtain rfl := Except.ok.inj hanswer
      exact ⟨rfl, rfl⟩
  | take length =>
      obtain ⟨⟨taken, c'⟩, htake, hanswer⟩ := exists_of_bind_eq_ok hperform
      obtain ⟨taken', -, hmoved⟩ := exists_of_bind_eq_ok htake
      obtain ⟨stop, -, hstop⟩ := exists_of_bind_eq_ok hmoved
      obtain ⟨rfl, rfl⟩ := Prod.mk.inj (Except.ok.inj hstop)
      obtain rfl := Except.ok.inj hanswer
      exact ⟨rfl, rfl⟩
  | moveTo position =>
      obtain ⟨⟨stored, c'⟩, hmove, hanswer⟩ := exists_of_bind_eq_ok hperform
      obtain ⟨stored', -, hstored⟩ := exists_of_bind_eq_ok hmove
      obtain ⟨rfl, rfl⟩ := Prod.mk.inj (Except.ok.inj hstored)
      obtain rfl := Except.ok.inj hanswer
      exact ⟨rfl, rfl⟩

/-- A command changes the latest match as it and its events tell. -/
theorem Between.perform_latest (h : c.Between front back) (fits : c.text.width < wordLimit)
    (hperform : c.perform command = .ok p) :
    p.cursor.latest = if command.forgets then none
      else ((p.events.filterMap AttemptEvent.consumed?).getLast?).or c.latest := by
  by_cases hattempt : ∃ mode m, command = .attempt mode m
  · obtain ⟨mode, m, rfl⟩ := hattempt
    obtain ⟨p', event, hok, hevents, htells⟩ := h.attempt_tells fits mode m
    obtain rfl := Except.ok.inj (hperform.symm.trans hok)
    rw [hevents]
    cases htells with
    | matched hslice hreply hcursor =>
        rw [hcursor]
        rfl
    | noMatch hfind hreply hcursor =>
        rw [hcursor]
        rfl
    | brokenContract hfind hreply hcursor =>
        rw [hcursor]
        rfl
  · obtain ⟨hevents, hlatest⟩ := perform_reports_nothing hperform
      fun mode m heq => hattempt ⟨mode, m, heq⟩
    rw [hevents, hlatest]
    rfl

/-! ## Runs -/

/-- In a run each command is given to the cursor that the ones before it have left. -/
theorem perform_of_performAll {commands : List Command} {answers : List Performed}
    (hall : c.performAll commands = .ok answers) {i : Nat} (hcommand : commands[i]? = some command)
    (hp : answers[i]? = some p) : (c.afterAll (answers.take i)).perform command = .ok p := by
  induction commands generalizing c answers i with
  | nil => exact nomatch hcommand
  | cons first commands ih =>
      obtain ⟨q, hq, hrest⟩ := exists_of_bind_eq_ok hall
      obtain ⟨answers', hanswers, hcons⟩ := exists_of_bind_eq_ok hrest
      obtain rfl := Except.ok.inj hcons
      cases i with
      | zero =>
          obtain rfl := Option.some.inj hcommand
          obtain rfl := Option.some.inj hp
          exact hq
      | succ i => exact ih hanswers hcommand hp

/-- Behind all answers the cursor is the one of the last. -/
theorem afterAll_concat (c : Cursor) (answers : List Performed) (p : Performed) :
    c.afterAll (answers ++ [p]) = p.cursor := by
  induction answers generalizing c with
  | nil => rfl
  | cons q answers ih => exact ih q.cursor

/-- From a start without a match on, the latest match is at every moment what the history tells. -/
theorem latest_afterAll (hc : c.Sound text) (fits : text.width < wordLimit)
    (hnone : c.latest = none) {commands : List Command} {answers : List Performed}
    (hall : c.performAll commands = .ok answers) (hlength : answers.length = commands.length)
    (hsound : ∀ p ∈ answers, p.cursor.Sound text) {k : Nat} (hk : k ≤ commands.length) :
    (c.afterAll (answers.take k)).latest = latestTold ((commands.zip answers).take k) := by
  induction k with
  | zero => exact hnone
  | succ k ih =>
      have hcommand := List.getElem?_eq_getElem (Nat.lt_of_succ_le hk)
      have hp := List.getElem?_eq_getElem (l := answers) (i := k) (by omega)
      have hzip := List.getElem?_zip_eq_some (z := (commands[k], answers[k])).mpr ⟨hcommand, hp⟩
      have hbefore : (c.afterAll (answers.take k)).Sound text :=
        hc.afterAll fun p hmem => hsound p (List.mem_of_mem_take hmem)
      obtain ⟨front, back, hb⟩ := hbefore.between
      have hstep := hb.perform_latest (hbefore.text_eq ▸ fits)
        (perform_of_performAll hall hcommand hp)
      rw [List.take_add_one, List.take_add_one, hp, hzip, Option.toList_some, Option.toList_some,
        afterAll_concat, latestTold_concat, hstep, ih (Nat.le_of_succ_le hk)]

/-- **THE EVENTS TELL THE HISTORY**: of any commands to a new cursor each attempt reports one event,
    which tells of a match exactly if the attempt is answered with something and tells where it
    began, what it consumed and where it left the cursor; no other command reports anything; and at
    every moment the latest match is what has been told of it. -/
theorem events_tell_the_history (text : Text) (window : Window) (commands : List Command)
    (fits : text.width < wordLimit) :
    ∃ answers, (ofText text window).performAll commands = .ok answers ∧
      answers.length = commands.length ∧
      (∀ (i : Nat) (command : Command) (p : Performed), commands[i]? = some command →
        answers[i]? = some p →
        (∀ mode m, command = .attempt mode m → ∃ event, p.events = [event] ∧
          event.Tells ((ofText text window).afterAll (answers.take i)) mode m p ∧
          (event.consumed?.isSome = true ↔ p.reply ≠ .nothing)) ∧
        ((∀ mode m, command ≠ .attempt mode m) → p.events = [])) ∧
      ∀ k ≤ commands.length, ((ofText text window).afterAll (answers.take k)).latest =
        latestTold ((commands.zip answers).take k) := by
  have hstart := Sound.ofText text window
  obtain ⟨answers, hall, hlength, hsound⟩ := performAll_sound fits commands _ hstart
  refine ⟨answers, hall, hlength, ?_, fun k hk =>
    latest_afterAll hstart fits rfl hall hlength hsound hk⟩
  intro i command p hcommand hp
  have hperform := perform_of_performAll hall hcommand hp
  constructor
  · rintro mode m rfl
    have hbefore : ((ofText text window).afterAll (answers.take i)).Sound text :=
      hstart.afterAll fun q hmem => hsound q (List.mem_of_mem_take hmem)
    obtain ⟨front, back, hb⟩ := hbefore.between
    have fits' : ((ofText text window).afterAll (answers.take i)).text.width < wordLimit := by
      rw [hbefore.text_eq]
      exact fits
    obtain ⟨p', event, hok, hevents, htells⟩ := hb.attempt_tells fits' mode m
    obtain rfl := Except.ok.inj (hperform.symm.trans hok)
    exact ⟨event, hevents, htells, consumed?_isSome_iff htells⟩
  · exact fun hother => (perform_reports_nothing hperform hother).1

/-- A seek over a character of two bytes, a span that is refused, a `reset`, and a match again: the
    latest match is there after the refusal, forgotten, and there again. -/
theorem events_tell_the_history_over_a_reset :
    Text.width ['é', '4'] < wordLimit ∧
      ∃ (c : Cursor) (commands : List Command) (answers : List Performed),
        c = ofText ['é', '4'] Window.standard ∧
        commands = [.attempt .scanUntil (.char '4'), .attempt .check (.fixed ⟨1, 0⟩), .reset,
          .attempt .skip (.literal ['é'])] ∧
        c.performAll commands = .ok answers ∧
        (∃ p, answers[1]? = some p ∧ p.events = [.brokenContract ⟨1, 0⟩ true] ∧
          AttemptEvent.Tells (c.afterAll (answers.take 1)) .check (.fixed ⟨1, 0⟩) p
            (.brokenContract ⟨1, 0⟩ true)) ∧
        (c.afterAll (answers.take 2)).latest = some ['é', '4'] ∧
        (c.afterAll (answers.take 3)).latest = none ∧
        (c.afterAll (answers.take 4)).latest = some ['é'] := by
  have fits : Text.width ['é', '4'] < wordLimit := by decide
  let c : Cursor := ofText ['é', '4'] Window.standard
  let commands : List Command := [.attempt .scanUntil (.char '4'), .attempt .check (.fixed ⟨1, 0⟩),
    .reset, .attempt .skip (.literal ['é'])]
  let refused : Performed := ⟨.nothing, ⟨['é', '4'], 3, some ['é', '4'], Window.standard⟩,
    [.brokenContract ⟨1, 0⟩ true]⟩
  obtain ⟨answers, hall, -, hevents, hlatest⟩ :=
    events_tell_the_history ['é', '4'] Window.standard commands fits
  have hanswers : c.performAll commands = .ok
      [⟨.text ['é', '4'], ⟨['é', '4'], 3, some ['é', '4'], Window.standard⟩,
          [.matched 0 3 false true ['é', '4']]⟩,
        refused,
        ⟨.nothing, ⟨['é', '4'], 0, none, Window.standard⟩, []⟩,
        ⟨.number 2, ⟨['é', '4'], 2, some ['é'], Window.standard⟩,
          [.matched 0 2 true true ['é']]⟩] := by
    rfl
  obtain rfl := Except.ok.inj (hall.symm.trans hanswers)
  refine ⟨fits, c, commands, _, rfl, rfl, hall, ⟨refused, rfl, rfl, ?_⟩, ?_, ?_, ?_⟩
  · obtain ⟨event, hevent, htells, -⟩ := (hevents 1 _ refused rfl rfl).1 .check _ rfl
    obtain rfl := List.singleton_inj.mp hevent
    exact htells
  · exact hlatest 2 (by decide)
  · exact hlatest 3 (by decide)
  · exact hlatest 4 (by decide)

end Cursor

end TextCursor
