import TextCursor.Proofs.CursorSafety

/-! # What a window shows

    A cursor counts in bytes and shows itself in characters: the window is a run of
    characters of the text, placed by the number of characters before the offset.

    Two bounds place its beginning.  It is to begin `lead` characters before the
    offset, as far as there are so many, and it is not to begin where the text ends
    too soon to fill it.  Whichever of the two is the smaller, the other bound holds
    as well, and `Cursor.Shows` says what follows from that for the three parts of
    the text: what is hidden before the window, what is shown, and what is left
    behind it. -/

namespace TextCursor

namespace Cursor

variable {c : Cursor} {passed rest : Text}

/-- Where the characters shown stand in the text of a cursor that has some of it passed and some of
    it before it. -/
structure Shows (c : Cursor) (passed rest hidden shown later : Text) : Prop where
  /-- What is shown is one run of characters of the text. -/
  text_eq : c.text = hidden ++ shown ++ later
  length_shown : shown.length = min c.window.width c.text.length
  /-- Where the text is long enough, the window begins as far before the offset as it is to lead,
      or at the start of the text. -/
  leads : c.window.width ≤ c.text.length - (passed.length - min c.window.lead passed.length) →
    hidden.length + min c.window.lead passed.length = passed.length
  /-- Where too few characters remain from there, the last ones are shown. -/
  ends : c.text.length - (passed.length - min c.window.lead passed.length) < c.window.width →
    later = []
  /-- The window does not begin behind the offset. -/
  begins : hidden <+: passed
  /-- A window that is wider than its lead shows the character at the offset, behind what it shows
      of the characters before. -/
  contains : c.window.lead < c.window.width → ∀ d behind, rest = d :: behind →
    ∃ front back, passed = hidden ++ front ∧ shown = front ++ d :: back

/-- The number of characters hidden before the window. -/
def hiddenLength (c : Cursor) (passed : Text) : Nat :=
  min (passed.length - c.window.lead) (c.text.length - c.window.width)

/-- No more is hidden than was passed. -/
theorem hiddenLength_le (c : Cursor) (passed : Text) : c.hiddenLength passed ≤ passed.length :=
  Nat.le_trans (Nat.min_le_left _ _) (Nat.sub_le _ _)

namespace Between

/-- What has been passed and what is left are all characters. -/
theorem length_eq (h : c.Between passed rest) :
    c.text.length = passed.length + rest.length := by
  rw [h.text_eq, List.length_append]

/-- What is shown follows the hidden characters, at most as many as the window is wide. -/
theorem shown_eq (h : c.Between passed rest) :
    c.shown = .ok ((c.text.drop (c.hiddenLength passed)).take c.window.width) := by
  rw [shown, h.before_eq]
  rfl

/-- The window begins with the part of the text before it that is not hidden. -/
theorem drop_hidden (h : c.Between passed rest) :
    c.text.drop (c.hiddenLength passed)
      = passed.drop (c.hiddenLength passed) ++ rest := by
  rw [h.text_eq, List.drop_append_of_le_length (c.hiddenLength_le passed)]

/-- What is hidden has been passed. -/
theorem take_hidden (h : c.Between passed rest) :
    c.text.take (c.hiddenLength passed) = passed.take (c.hiddenLength passed) := by
  rw [h.text_eq, List.take_append_of_le_length (c.hiddenLength_le passed)]

/-- A character at the offset is shown when what is shown before it does not fill the window. -/
theorem contains_of_lt (h : c.Between passed rest) (hlead : c.window.lead < c.window.width)
    {d : Char} {behind : Text} (hrest : rest = d :: behind) :
    ∃ back, (c.text.drop (c.hiddenLength passed)).take c.window.width
      = passed.drop (c.hiddenLength passed) ++ d :: back := by
  have hlength := h.length_eq
  rw [hrest, List.length_cons] at hlength
  -- either bound leaves fewer characters before the offset than the window is wide
  have hfront : (passed.drop (c.hiddenLength passed)).length < c.window.width := by
    rw [List.length_drop, hiddenLength]
    omega
  obtain ⟨more, hmore⟩ := Nat.exists_eq_add_of_lt hfront
  refine ⟨behind.take more, ?_⟩
  rw [h.drop_hidden, hmore, hrest, Nat.add_assoc, List.take_length_add_append, List.take_succ_cons]

/-- The characters behind the hidden ones are shown as a window is to show them. -/
theorem shows (h : c.Between passed rest) :
    c.Shows passed rest (c.text.take (c.hiddenLength passed))
      ((c.text.drop (c.hiddenLength passed)).take c.window.width)
      ((c.text.drop (c.hiddenLength passed)).drop c.window.width) where
  text_eq := by
    rw [List.append_assoc, List.take_append_drop, List.take_append_drop]
  length_shown := by
    rw [List.length_take, List.length_drop, hiddenLength]
    omega
  leads := by
    intro hlong
    have hlength := h.length_eq
    rw [List.length_take, hiddenLength]
    omega
  ends := by
    intro hshort
    rw [List.drop_drop, List.drop_eq_nil_iff, hiddenLength]
    omega
  begins := by
    rw [h.take_hidden]
    exact List.take_prefix _ _
  contains := by
    intro hlead d behind hrest
    obtain ⟨back, hshown⟩ := h.contains_of_lt hlead hrest
    refine ⟨passed.drop (c.hiddenLength passed), back, ?_, hshown⟩
    rw [h.take_hidden, List.take_append_drop]

end Between

/-- **The window stands around the offset**: wherever a cursor stands in a text, and however wide
    its window is and however far it leads, the cursor shows itself with its offset, the width of
    the text and a run of characters of the text.  There are as many as the window is wide, or all;
    they begin the lead before the offset, or they are the last ones. -/
theorem window_around_offset (hplace : c.text.isBoundary c.offset = true) :
    ∃ passed rest hidden shown later, c.text.before c.offset = .ok passed ∧ c.rest = .ok rest ∧
      c.text = passed ++ rest ∧
      c.summary = .ok ("Scanner(".toList ++ Text.ofNat c.offset ++ "/".toList ++
        Text.ofNat c.text.width ++ " \"".toList ++ shown ++ "\")".toList) ∧
      c.Shows passed rest hidden shown later := by
  obtain ⟨passed, rest, h⟩ := exists_between hplace
  refine ⟨passed, rest, _, _, _, h.before_eq, h.rest_eq, h.text_eq, ?_, h.shows⟩
  rw [summary, h.shown_eq]
  rfl

/-- Behind two of three characters: a window that is to lead by as many characters as there are
    words shows the first two, and one that is to be that wide shows all of them. -/
theorem window_around_offset_behind_two_chars :
    Text.isBoundary ['é', 'ö', 'ñ'] 4 = true ∧
      (⟨['é', 'ö', 'ñ'], 4, none, ⟨2, wordLimit - 1⟩⟩ : Cursor).summary
        = .ok "Scanner(4/6 \"éö\")".toList ∧
      (⟨['é', 'ö', 'ñ'], 4, none, ⟨wordLimit - 1, 1⟩⟩ : Cursor).summary
        = .ok "Scanner(4/6 \"éöñ\")".toList := by
  have hplace : Text.isBoundary ['é', 'ö', 'ñ'] 4 = true := by decide
  refine ⟨hplace, ?_, ?_⟩
  · obtain ⟨passed, rest, hidden, shown, later, hbefore, -, -, hsummary, hshows⟩ :=
      window_around_offset (c := ⟨['é', 'ö', 'ñ'], 4, none, ⟨2, wordLimit - 1⟩⟩) hplace
    obtain rfl : ['é', 'ö'] = passed := Except.ok.inj hbefore
    obtain rfl : hidden = [] := by
      have hleads : hidden.length + 2 = 2 := hshows.leads (by decide)
      exact List.eq_nil_of_length_eq_zero (by omega)
    have htext : ['é', 'ö'] ++ ['ñ'] = shown ++ later := hshows.text_eq
    have hlength : ['é', 'ö'].length = shown.length := hshows.length_shown.symm
    obtain ⟨rfl, -⟩ := List.append_inj htext hlength
    rw [hsummary]
    rfl
  · obtain ⟨passed, rest, hidden, shown, later, hbefore, -, -, hsummary, hshows⟩ :=
      window_around_offset (c := ⟨['é', 'ö', 'ñ'], 4, none, ⟨wordLimit - 1, 1⟩⟩) hplace
    obtain rfl : ['é', 'ö'] = passed := Except.ok.inj hbefore
    obtain rfl : later = [] := hshows.ends (by decide)
    have htext : [] ++ ['é', 'ö', 'ñ'] = hidden ++ shown := by
      have heq : ['é', 'ö', 'ñ'] = hidden ++ shown ++ [] := hshows.text_eq
      rw [List.append_nil] at heq
      exact heq
    have hlength : ['é', 'ö', 'ñ'].length = shown.length := hshows.length_shown.symm
    obtain ⟨-, rfl⟩ := List.append_inj' htext hlength
    rw [hsummary]
    rfl

end Cursor

end TextCursor
