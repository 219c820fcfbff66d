import TextCursor.Proofs.Conservation

/-! # Takes, looks and moves see the same characters

    A look decodes at a boundary without any search for one; a move rounds its
    position down, and a peek rounds its end up.  All three are described by cuts
    of the text, and `Text.charAt?` is what they have in common: the first
    character behind a cut, and none where there is no cut.

    So they agree at every position, those inside a character and behind the text
    included.  To take one byte again and again reads the rest character by
    character: `Between.takes_ok` is the induction over the number of takes, and
    it goes on behind the last character, where nothing is taken any more. -/

namespace TextCursor

namespace Cursor

variable {c : Cursor} {front back : Text}

/-! ## Looks and moves -/

/-- All looks into a text together show the text. -/
theorem charFrom_all (c : Cursor) :
    ∃ answers, (List.range c.text.width).mapM c.charFrom = .ok answers ∧
      answers.filterMap id = c.text := by
  refine ⟨(List.range c.text.width).map c.text.charAt?, ?_, ?_⟩
  · rw [funext c.charFrom_eq]
    exact List.mapM_pure
  · rw [List.filterMap_map, Function.id_comp, Text.filterMap_charAt?]

/-- A peek of one byte shows the first character of the rest, if there is one. -/
theorem Between.peek_one (h : c.Between front back) (fits : c.text.width < wordLimit) :
    c.peek 1 = .ok back.head?.toList := by
  cases back with
  | nil => exact h.peek_end fits 1
  | cons d back => exact h.peek_char fits

/-- A look shows a character exactly where a move goes and a peek from there shows it. -/
theorem charFrom_eq_some_iff (fits : c.text.width < wordLimit) {index : Nat} {d : Char} :
    c.charFrom index = .ok (some d) ↔
      ∃ moved, c.moveTo index = .ok (index, moved) ∧ moved.peek 1 = .ok [d] := by
  rw [charFrom_eq, Except.ok.injEq]
  constructor
  · intro hchar
    obtain ⟨front, back, htext, rfl⟩ := Text.charAt?_eq_some_iff.mp hchar
    have hmoved : { c with offset := front.width }.Between front (d :: back) := ⟨htext, rfl⟩
    exact ⟨_, moveTo_width htext, hmoved.peek_char fits⟩
  · rintro ⟨moved, hmove, hpeek⟩
    obtain ⟨hbound, rfl⟩ := moveTo_eq_self_iff.mp hmove
    obtain ⟨front, back, htext, rfl⟩ := Text.isBoundary_iff.mp hbound
    have hmoved : { c with offset := front.width }.Between front back := ⟨htext, rfl⟩
    rw [hmoved.peek_one fits] at hpeek
    rw [htext, Text.charAt?_width]
    exact Option.toList_eq_singleton_iff.mp (Except.ok.inj hpeek)

/-- A look shows nothing exactly behind the last byte and where a move rounds down. -/
theorem charFrom_eq_none_iff {index : Nat} :
    c.charFrom index = .ok none ↔ c.text.width ≤ index ∨
      ∃ stored moved, c.moveTo index = .ok (stored, moved) ∧ stored < index := by
  rw [charFrom_eq]
  by_cases hbound : c.text.isBoundary index = true
  · have hmove := moveTo_eq_self_iff.mpr ⟨hbound, rfl⟩
    obtain ⟨front, back, htext, rfl⟩ := Text.isBoundary_iff.mp hbound
    rw [htext, Text.charAt?_width, Text.width_append, Except.ok.injEq, List.head?_eq_none_iff]
    constructor
    · rintro rfl
      exact Or.inl (by simp)
    · rintro (hpast | ⟨stored, moved, hok, hlt⟩)
      · exact Text.eq_nil_of_width (by omega)
      · obtain ⟨rfl, -⟩ := Prod.mk.inj (Except.ok.inj (hmove.symm.trans hok))
        exact absurd hlt (Nat.lt_irrefl _)
  · rw [Text.charAt?_of_not_isBoundary (Bool.eq_false_iff.mpr hbound)]
    obtain ⟨front, back, htext, hle, hok⟩ := moveTo_ok c index
    -- what is stored is a boundary, and the position is not
    have hne : front.width ≠ index := by
      rintro rfl
      exact hbound (Text.isBoundary_iff.mpr ⟨front, back, htext, rfl⟩)
    exact ⟨fun _ => Or.inr ⟨_, _, hok, by omega⟩, fun _ => rfl⟩

/-! ## Takes -/

/-- To take one byte passes the first character of the rest, if there is one. -/
theorem Between.take_one (h : c.Between front back) (fits : c.text.width < wordLimit) :
    ∃ next, c.take 1 = .ok (back.head?.toList, next) ∧ next.text = c.text ∧
      next.Between (front ++ back.head?.toList) back.tail := by
  have hback : back = back.head?.toList ++ back.tail := by cases back <;> rfl
  exact ⟨_, h.take_of_peek fits hback (h.peek_one fits), rfl, h.passed hback⟩

/-- Takes of one byte answer the characters of the rest one by one, and then nothing. -/
theorem Between.takes_ok (calls : Nat) :
    ∀ {c : Cursor} {front back : Text}, c.Between front back → c.text.width < wordLimit →
      ∃ answers, c.performAll (List.replicate calls (.take 1)) = .ok answers ∧
        answers.map (·.reply) = (back.take calls).map (fun d => .text [d]) ++
          List.replicate (calls - back.length) (.text []) ∧
        (c.afterAll answers).text = c.text ∧
        (c.afterAll answers).Between (front ++ back.take calls) (back.drop calls) := by
  induction calls with
  | zero =>
      intro c front back h _
      refine ⟨[], rfl, ?_, rfl, ?_⟩
      · simp
      · simpa [afterAll] using h
  | succ calls ih =>
      intro c front back h fits
      obtain ⟨next, htake, htext, hnext⟩ := h.take_one fits
      obtain ⟨answers, hall, hreplies, hkept, hlast⟩ := ih hnext (htext ▸ fits)
      refine ⟨⟨.text back.head?.toList, next, []⟩ :: answers, ?_, ?_, hkept.trans htext, ?_⟩
      · rw [List.replicate_succ, performAll, perform, htake, ok_bind]
        show (next.performAll (List.replicate calls (.take 1)) >>= _) = _
        rw [hall]
        rfl
      · rw [List.map_cons, hreplies]
        cases back with
        | nil => simp [List.replicate_succ]
        | cons d back => simp
      · cases back with
        | nil => simpa [afterAll] using hlast
        | cons d back => simpa [afterAll] using hlast

/-- **Takes, looks and moves see the same characters.**  From any place in a text, to take one byte
    so many times answers the characters of the rest, each as a text of its own and in order, and
    then the empty text: the end is reached with the last character and not before, and then there
    is nothing to take.  The characters that looks show at all positions, in order, are the text.
    And at every position a look shows a character exactly if a move goes to that position and a
    peek from there shows it; it shows none exactly if the position is behind the last byte or the
    move goes to a smaller one. -/
theorem one_view_of_characters (hplace : c.text.isBoundary c.offset = true)
    (fits : c.text.width < wordLimit) :
    (∃ rest, c.rest = .ok rest ∧
      ∀ calls, ∃ answers, c.performAll (List.replicate calls (.take 1)) = .ok answers ∧
        answers.map (·.reply) = (rest.take calls).map (fun d => .text [d]) ++
          List.replicate (calls - rest.length) (.text []) ∧
        ((c.afterAll answers).atEnd = true ↔ rest.length ≤ calls) ∧
        (rest.length ≤ calls → ∀ length,
          (c.afterAll answers).take length = .ok ([], c.afterAll answers))) ∧
    (∃ answers, (List.range c.text.width).mapM c.charFrom = .ok answers ∧
      answers.filterMap id = c.text) ∧
    ∀ index, (∃ answer, c.charFrom index = .ok answer) ∧
      (∀ d, c.charFrom index = .ok (some d) ↔
        ∃ moved, c.moveTo index = .ok (index, moved) ∧ moved.peek 1 = .ok [d]) ∧
      (c.charFrom index = .ok none ↔ c.text.width ≤ index ∨
        ∃ stored moved, c.moveTo index = .ok (stored, moved) ∧ stored < index) := by
  obtain ⟨front, back, h⟩ := exists_between hplace
  refine ⟨⟨back, h.rest_eq, ?_⟩, c.charFrom_all, ?_⟩
  · intro calls
    obtain ⟨answers, hall, hreplies, htext, hlast⟩ := h.takes_ok calls fits
    refine ⟨answers, hall, hreplies, ?_, ?_⟩
    · rw [hlast.atEnd_iff, List.drop_eq_nil_iff]
    · intro hle length
      rw [List.drop_eq_nil_of_le hle] at hlast
      exact hlast.take_end (htext ▸ fits) length
  · exact fun index => ⟨⟨_, c.charFrom_eq index⟩, fun _ => charFrom_eq_some_iff fits,
      charFrom_eq_none_iff⟩

/-- Characters of all four widths, from behind the first one. -/
theorem one_view_of_four_widths :
    (Text.isBoundary ['a', 'é', '€', '𝄞'] 1 = true ∧
      Text.width ['a', 'é', '€', '𝄞'] < wordLimit) ∧
    (∃ answers, (⟨['a', 'é', '€', '𝄞'], 1, none, .standard⟩ : Cursor).performAll
        (List.replicate 4 (.take 1)) = .ok answers ∧
      answers.map (·.reply) = [.text ['é'], .text ['€'], .text ['𝄞'], .text []]) ∧
    (⟨['a', 'é', '€', '𝄞'], 1, none, .standard⟩ : Cursor).charFrom 3 = .ok (some '€') ∧
    (⟨['a', 'é', '€', '𝄞'], 1, none, .standard⟩ : Cursor).charFrom 5 = .ok none := by
  obtain ⟨⟨rest, hrest, htakes⟩, -, hlooks⟩ :=
    one_view_of_characters (c := ⟨['a', 'é', '€', '𝄞'], 1, none, .standard⟩) (by decide) (by decide)
  obtain rfl : ['é', '€', '𝄞'] = rest := Except.ok.inj hrest
  obtain ⟨answers, hall, hreplies, -⟩ := htakes 4
  refine ⟨by decide, ⟨answers, hall, hreplies⟩, rfl, ?_⟩
  exact (hlooks 5).2.2.mpr (Or.inr ⟨3, _, rfl, by decide⟩)

end Cursor

end TextCursor
