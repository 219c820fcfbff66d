import TextCursor.Proofs.CursorSafety

/-! # No text is lost or duplicated

    Attempts, peeks and takes only go forward.  What such a command consumes is a
    beginning of the rest, and it is what the answer says: the text answered by a
    scan, a seek or a take, so many bytes of the rest where a length is answered,
    and nothing where the cursor stays or where there is no match.

    One step lemma, `forward_ok`, states this for every command together with the
    place of the cursor afterwards.  The run follows by induction over the
    commands: the pieces consumed and the rest that remains make up the rest
    there was.  Offsets, the number of pieces and the number of rounds of a loop
    are read off that equation. -/

namespace TextCursor

namespace Command

/-- A command that never goes back. -/
def IsForward : Command → Prop
  | .attempt _ _ | .peek _ | .take _ => True
  | _ => False

/-- The text at the beginning of the rest that a command has consumed, as its answer tells. -/
def consumed (rest : Text) : Command → Reply → Checked Text
  | .attempt .scan _, .text t | .attempt .scanUntil _, .text t | .take _, .text t => .ok t
  | .attempt .skip _, .number n | .attempt .skipUntil _, .number n => rest.before n
  | _, _ => .ok []

end Command

namespace Cursor

/-- The cursor that the last of some answers leaves. -/
def afterAll (c : Cursor) : List Performed → Cursor
  | [] => c
  | p :: answers => p.cursor.afterAll answers

/-- What each command of a run has consumed of the rest before it. -/
def pieces (c : Cursor) : List Command → List Performed → Checked (List Text)
  | command :: commands, p :: answers => do
    let rest ← c.rest
    let piece ← command.consumed rest p.reply
    return piece :: (← p.cursor.pieces commands answers)
  | _, _ => .ok []

/-- Rounds of a loop, one after another, each of which consumes something. -/
def EachConsumes (c : Cursor) : List (List Command) → Prop
  | [] => True
  | round :: rounds => ∃ answers pieces, c.performAll round = .ok answers ∧
      c.pieces round answers = .ok pieces ∧ pieces.flatten ≠ [] ∧
      (c.afterAll answers).EachConsumes rounds

variable {c d : Cursor} {text front back : Text}

/-! ## One command -/

/-- A cursor that stands behind a piece of the rest of another one is over the same text. -/
theorem Between.text_eq_of_passed {piece rest : Text} (h : c.Between front (piece ++ rest))
    (hd : d.Between (front ++ piece) rest) : d.text = c.text := by
  rw [hd.text_eq, h.text_eq, List.append_assoc]

/-- What an attempt has consumed is what it matched, if it moves, and nothing otherwise. -/
theorem consumed_attempt (mode : MatchMode) (m : Matcher) (t rest : Text) :
    (Command.attempt mode m).consumed (t ++ rest) (mode.reply (some t)) =
      .ok (if mode.advances then t else []) := by
  cases mode with
  | scan => rfl
  | scanUntil => rfl
  | check => rfl
  | checkUntil => rfl
  | skip => exact Text.before_append t rest
  | skipUntil => exact Text.before_append t rest

/-- An attempt without a match has consumed nothing. -/
theorem consumed_attempt_none (mode : MatchMode) (m : Matcher) (rest : Text) :
    (Command.attempt mode m).consumed rest (mode.reply none) = .ok [] := by
  cases mode <;> rfl

/-- A command that goes forward consumes a beginning of the rest, and stands behind it. -/
theorem Between.forward_ok (h : c.Between front back) (fits : c.text.width < wordLimit)
    {command : Command} (hforward : command.IsForward) :
    ∃ p piece rest, c.perform command = .ok p ∧ command.consumed back p.reply = .ok piece ∧
      back = piece ++ rest ∧ p.cursor.Between (front ++ piece) rest := by
  have hstays : c.Between (front ++ []) back := by simpa using h
  cases command with
  | attempt mode m =>
      obtain ⟨a, hok, hcases⟩ := h.attempt_cases fits m mode.advances mode.anchored
      have hperform : c.perform (.attempt mode m) =
          .ok ⟨mode.reply a.consumed, a.cursor, [a.event]⟩ := by
        rw [perform, attemptBy_eq, hok]
        rfl
      rcases hcases with ⟨hnone, hsame⟩ | ⟨t, rest, rfl, hsome, hmoved⟩
      · rw [hnone, hsame] at hperform
        exact ⟨_, [], back, hperform, consumed_attempt_none mode m back, rfl, hstays⟩
      · rw [hsome, hmoved] at hperform
        refine ⟨_, if mode.advances then t else [], if mode.advances then rest else t ++ rest,
          hperform, consumed_attempt mode m t rest, ?_, ?_⟩
        · cases mode.advances <;> rfl
        · -- only the latest match changes where the cursor stays
          cases mode.advances with
          | false => exact ⟨hstays.text_eq, hstays.offset_eq⟩
          | true =>
              have hpassed := h.passed (rfl : t ++ rest = t ++ rest)
              exact ⟨hpassed.text_eq, hpassed.offset_eq⟩
  | peek length =>
      obtain ⟨taken, -, -, hpeek⟩ := h.peek_ok fits length
      exact ⟨⟨.text taken, c, []⟩, [], back, by rw [perform, hpeek]; rfl, rfl, rfl, hstays⟩
  | take length =>
      obtain ⟨taken, rest, hback, hpeek⟩ := h.peek_ok fits length
      have htake := h.take_of_peek fits hback hpeek
      exact ⟨⟨.text taken, _, []⟩, taken, rest, by rw [perform, htake]; rfl, rfl, hback,
        h.passed hback⟩
  | moveTo | charFrom | text | rest | atEnd | summary | render | reset | terminate =>
      exact hforward.elim

/-! ## A run of commands -/

/-- Commands that go forward consume the rest piece by piece, and no offset is less than the one
    before it. -/
theorem Between.forwardAll_ok (commands : List Command) :
    ∀ {c : Cursor} {front back : Text}, c.Between front back → c.text.width < wordLimit →
      (∀ command ∈ commands, command.IsForward) →
      ∃ answers pieces rest, c.performAll commands = .ok answers ∧
        c.pieces commands answers = .ok pieces ∧ back = pieces.flatten ++ rest ∧
        (c.afterAll answers).Between (front ++ pieces.flatten) rest ∧
        (c.offset :: answers.map fun p => p.cursor.offset).Pairwise (· ≤ ·) := by
  induction commands with
  | nil =>
      intro c front back h _ _
      refine ⟨[], [], back, rfl, rfl, rfl, ?_, List.pairwise_singleton _ _⟩
      simpa [afterAll] using h
  | cons command commands ih =>
      intro c front back h fits hforward
      obtain ⟨hhead, htail⟩ := List.forall_mem_cons.mp hforward
      obtain ⟨p, piece, rest, hp, hpiece, rfl, hb⟩ := h.forward_ok fits hhead
      have htext := h.text_eq_of_passed hb
      obtain ⟨answers, pieces, last, hall, hpieces, rfl, hlast, hsorted⟩ :=
        ih hb (htext ▸ fits) htail
      refine ⟨p :: answers, piece :: pieces, last, ?_, ?_, ?_, ?_, ?_⟩
      · rw [performAll, hp, ok_bind, hall]
        rfl
      · rw [Cursor.pieces, h.rest_eq, ok_bind, hpiece, ok_bind, hpieces]
        rfl
      · rw [List.flatten_cons, List.append_assoc]
      · rw [List.flatten_cons, ← List.append_assoc]
        exact hlast
      · have hle : c.offset ≤ p.cursor.offset := by
          rw [h.offset_eq, hb.offset_eq, Text.width_append]
          omega
        refine List.pairwise_cons.mpr ⟨?_, hsorted⟩
        intro offset hmem
        rcases List.mem_cons.mp hmem with rfl | hlater
        · exact hle
        · exact Nat.le_trans hle ((List.pairwise_cons.mp hsorted).1 offset hlater)

/-- A text has at least as many characters as it has pieces that are not empty. -/
theorem countP_pieces_le (pieces : List Text) :
    pieces.countP (· ≠ []) ≤ pieces.flatten.length := by
  induction pieces with
  | nil => exact Nat.le_refl 0
  | cons piece pieces ih =>
      rw [List.countP_cons, List.flatten_cons, List.length_append]
      cases piece with
      | nil => simpa using ih
      | cons d piece =>
          simp only [List.length_cons]
          split <;> omega

/-- Rounds that consume something each are no more than the rest has characters. -/
theorem Between.length_rounds_le (rounds : List (List Command)) :
    ∀ {c : Cursor} {front back : Text}, c.Between front back → c.text.width < wordLimit →
      (∀ round ∈ rounds, ∀ command ∈ round, command.IsForward) → c.EachConsumes rounds →
        rounds.length ≤ back.length := by
  induction rounds with
  | nil => exact fun _ _ _ _ => Nat.zero_le _
  | cons round rounds ih =>
      intro c front back h fits hforward hconsumes
      obtain ⟨hhead, htail⟩ := List.forall_mem_cons.mp hforward
      obtain ⟨answers, pieces, hall, hpieces, hne, hconsumes⟩ := hconsumes
      obtain ⟨answers', pieces', rest, hall', hpieces', rfl, hb, -⟩ :=
        Between.forwardAll_ok round h fits hhead
      obtain rfl := Except.ok.inj (hall.symm.trans hall')
      obtain rfl := Except.ok.inj (hpieces.symm.trans hpieces')
      have htext := h.text_eq_of_passed hb
      have hle := ih hb (htext ▸ fits) htail hconsumes
      have hpos := List.length_pos_iff.mpr hne
      rw [List.length_cons, List.length_append]
      omega

/-- **No text is lost or duplicated** while a cursor goes forward: what the commands have consumed,
    in order, and the rest that remains are the rest there was.  So the offset grows by what was
    consumed and never falls, and a loop that consumes something in every round makes no more
    rounds than the rest has characters. -/
theorem nothing_lost (h : c.Reached text) (fits : text.width < wordLimit) :
    ∃ rest, c.rest = .ok rest ∧
      (∀ commands : List Command, (∀ command ∈ commands, command.IsForward) →
        ∃ answers pieces last, c.performAll commands = .ok answers ∧
          c.pieces commands answers = .ok pieces ∧ (c.afterAll answers).rest = .ok last ∧
          pieces.flatten ++ last = rest ∧
          (c.offset :: answers.map fun p => p.cursor.offset).Pairwise (· ≤ ·) ∧
          (c.afterAll answers).offset = c.offset + Text.width pieces.flatten ∧
          pieces.countP (· ≠ []) ≤ rest.length) ∧
      ∀ rounds : List (List Command), (∀ round ∈ rounds, ∀ command ∈ round, command.IsForward) →
        c.EachConsumes rounds → rounds.length ≤ rest.length := by
  obtain ⟨front, back, hb, fits'⟩ := h.between fits
  refine ⟨back, hb.rest_eq, ?_, fun rounds => hb.length_rounds_le rounds fits'⟩
  intro commands hforward
  obtain ⟨answers, pieces, last, hall, hpieces, rfl, hlast, hsorted⟩ :=
    hb.forwardAll_ok commands fits' hforward
  refine ⟨answers, pieces, last, hall, hpieces, hlast.rest_eq, rfl, hsorted, ?_, ?_⟩
  · rw [hlast.offset_eq, hb.offset_eq, Text.width_append]
  · have := countP_pieces_le pieces
    rw [List.length_append]
    omega

/-- A seek over a character of two bytes that answers with a length, and a loop of two rounds. -/
theorem nothing_lost_over_two_chars :
    (Cursor.ofText ['é', '4'] Window.standard).Reached ['é', '4'] ∧
      Text.width ['é', '4'] < wordLimit ∧
      (∃ answers pieces last, (Cursor.ofText ['é', '4'] Window.standard).performAll
          [.attempt .checkUntil (Matcher.char '4'), .attempt .skipUntil (Matcher.fixed ⟨1, 2⟩)] =
            .ok answers ∧
        (Cursor.ofText ['é', '4'] Window.standard).pieces
          [.attempt .checkUntil (Matcher.char '4'), .attempt .skipUntil (Matcher.fixed ⟨1, 2⟩)]
          answers = .ok pieces ∧
        ((Cursor.ofText ['é', '4'] Window.standard).afterAll answers).rest = .ok last ∧
        pieces.flatten ++ last = ['é', '4']) ∧
      (Cursor.ofText ['é', '4'] Window.standard).EachConsumes
        [[.attempt .scan (Matcher.char 'é')], [.attempt .skip (Matcher.char '4')]] ∧
      2 ≤ ['é', '4'].length := by
  have hloop : (Cursor.ofText ['é', '4'] Window.standard).EachConsumes
      [[.attempt .scan (Matcher.char 'é')], [.attempt .skip (Matcher.char '4')]] :=
    ⟨_, [['é']], rfl, rfl, by decide, _, [['4']], rfl, rfl, by decide, trivial⟩
  obtain ⟨rest, hrest, hrun, hrounds⟩ := nothing_lost (.start Window.standard)
    (by decide : Text.width ['é', '4'] < wordLimit)
  obtain rfl : ['é', '4'] = rest := Except.ok.inj hrest
  obtain ⟨answers, pieces, last, hall, hpieces, hlast, hjoined, -⟩ :=
    hrun [.attempt .checkUntil (Matcher.char '4'), .attempt .skipUntil (Matcher.fixed ⟨1, 2⟩)]
      (by simp [Command.IsForward])
  exact ⟨.start _, by decide, ⟨answers, pieces, last, hall, hpieces, hlast, hjoined⟩, hloop,
    hrounds _ (by simp [Command.IsForward]) hloop⟩

end Cursor

end TextCursor
