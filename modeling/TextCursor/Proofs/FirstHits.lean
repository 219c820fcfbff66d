import Mathlib.Data.List.Forall2
import Mathlib.Order.Bounds.Basic
import TextCursor.Proofs.MatcherContracts

/-! # First hits

    An anchored attempt compares a text with the start of a haystack.  A seek goes
    another way: through the bytes of the haystack for a literal, through its
    characters for a character.  Both ways lead to the first place at which an
    anchored attempt succeeds.

    All searches answer with the least number that has a property, which is
    `FindsLeast`; two searches for the same property are one.  What bytes are found
    at is a place where the text stands (the module on occurrences), and a text that
    stands somewhere has its bytes there, so the search in bytes is one for the
    text.  Hence a character is the literal of itself (`Matcher.char_eq_literal`),
    and everything else is said about literals. -/

namespace TextCursor

/-! ## Searches -/

/-- An answer that is the least number with a property, and nothing if no number has it. -/
structure FindsLeast (P : Nat → Prop) (answer : Option Nat) : Prop where
  sound : ∀ k, answer = some k → P k
  in_time : ∀ n, P n → ∃ k ≤ n, answer = some k

namespace FindsLeast

variable {P : Nat → Prop} {answer answer' : Option Nat}

/-- What is found is the least number. -/
theorem eq_some_iff (h : FindsLeast P answer) (k : Nat) :
    answer = some k ↔ IsLeast {n | P n} k := by
  constructor
  · intro hk
    refine ⟨h.sound k hk, ?_⟩
    intro n hn
    obtain ⟨j, hle, hj⟩ := h.in_time n hn
    obtain rfl := Option.some.inj (hk.symm.trans hj)
    exact hle
  · rintro ⟨hk, hleast⟩
    obtain ⟨j, hle, hj⟩ := h.in_time k hk
    rw [hj, Nat.le_antisymm hle (hleast (h.sound j hj))]

/-- Nothing is found where there is no such number. -/
theorem eq_none_iff (h : FindsLeast P answer) : answer = none ↔ ∀ n, ¬ P n := by
  constructor
  · rintro rfl n hn
    obtain ⟨j, -, hj⟩ := h.in_time n hn
    exact nomatch hj
  · intro hnone
    rw [Option.eq_none_iff_forall_ne_some]
    intro k hk
    exact hnone k (h.sound k hk)

/-- Two searches for the same are one. -/
theorem unique (h : FindsLeast P answer) (h' : FindsLeast P answer') : answer = answer' := by
  ext k
  rw [h.eq_some_iff, h'.eq_some_iff]

end FindsLeast

namespace Text

variable {t haystack : Text} {n : Nat}

/-- A text stands at a position of a haystack. -/
def StandsAt (t haystack : Text) (n : Nat) : Prop :=
  ∃ front back, haystack = front ++ t ++ back ∧ front.width = n

/-- The bytes of a text are found at a position among the bytes of a haystack. -/
def BytesAt (t haystack : Text) (n : Nat) : Prop :=
  ∃ front back, haystack.bytes = front ++ t.bytes ++ back ∧ front.length = n

/-- Where a text stands its bytes are found. -/
theorem StandsAt.bytesAt (h : t.StandsAt haystack n) : t.BytesAt haystack n := by
  obtain ⟨front, back, rfl, rfl⟩ := h
  exact ⟨front.bytes, back.bytes, by rw [bytes_append, bytes_append], front.length_bytes⟩

/-- The shortest beginning of a text that contains what is sought: every other one goes on from
    there. -/
structure ShortestContaining (sought rest t : Text) : Prop where
  is_beginning : t <+: rest
  contains : sought <:+: t
  shortest : ∀ u, u <+: rest → sought <:+: u → t <+: u

/-- There is only one shortest beginning that contains what is sought. -/
theorem ShortestContaining.unique {sought rest u : Text} (h : ShortestContaining sought rest t)
    (h' : ShortestContaining sought rest u) : t = u :=
  (h.shortest u h'.is_beginning h'.contains).eq_of_length_le
    (h'.shortest t h.is_beginning h.contains).length_le

end Text

namespace Matcher

variable {sought bs : List UInt8} {t haystack : Text} {c : Char} {n : Nat}

/-- Bytes at the start are found at once. -/
theorem firstOccurrence_append (sought back : List UInt8) :
    firstOccurrence sought (sought ++ back) = some 0 := by
  cases hall : sought ++ back with
  | nil =>
      obtain ⟨rfl, -⟩ := List.append_eq_nil_iff.mp hall
      rfl
  | cons b bs =>
      have hhere : sought.isPrefixOf (b :: bs) = true := by
        rw [List.isPrefixOf_iff_prefix, ← hall]
        exact List.prefix_append sought back
      rw [firstOccurrence, if_pos hhere]

/-- Bytes that occur are found no later than there. -/
theorem firstOccurrence_in_time (front sought back : List UInt8) :
    ∃ k ≤ front.length, firstOccurrence sought (front ++ sought ++ back) = some k := by
  induction front with
  | nil => exact ⟨0, Nat.le_refl 0, firstOccurrence_append sought back⟩
  | cons b front ih =>
      obtain ⟨k, hle, hk⟩ := ih
      rw [List.cons_append, List.cons_append, firstOccurrence]
      split
      · exact ⟨0, Nat.zero_le _, rfl⟩
      · exact ⟨k + 1, Nat.succ_le_succ hle, by rw [hk]; rfl⟩

/-- A search in bytes is a search for the bytes. -/
theorem firstOccurrence_findsBytes (t haystack : Text) :
    FindsLeast (t.BytesAt haystack) (firstOccurrence t.bytes haystack.bytes) where
  sound := by
    intro k hk
    obtain ⟨back, hback⟩ := prefix_of_firstOccurrence hk
    have hle := firstOccurrence_le hk
    refine ⟨haystack.bytes.take k, back, ?_, ?_⟩
    · rw [List.append_assoc, hback, List.take_append_drop]
    · rw [List.length_take]
      omega
  in_time := by
    rintro n ⟨front, back, hbytes, rfl⟩
    rw [hbytes]
    exact firstOccurrence_in_time front t.bytes back

/-- A search in bytes is a search for the text. -/
theorem firstOccurrence_findsText (t haystack : Text) :
    FindsLeast (t.StandsAt haystack) (firstOccurrence t.bytes haystack.bytes) where
  sound := by
    intro k hk
    have hfind : (literal t).find haystack false = some ⟨k, k + t.width⟩ :=
      congrArg (Option.map fun start => Span.mk start (start + t.width)) hk
    obtain ⟨front, back, hcut, hspan, -⟩ := exists_cut_of_literal hfind
    exact ⟨front, back, hcut, (congrArg Span.start hspan).symm⟩
  in_time := by
    intro n hn
    exact (firstOccurrence_findsBytes t haystack).in_time n hn.bytesAt

/-- A search in characters is a search for the character. -/
theorem firstIndex_findsText (c : Char) (haystack : Text) :
    FindsLeast (Text.StandsAt [c] haystack) (firstIndex c haystack) where
  sound := fun _ hk => exists_cut_of_firstIndex hk
  in_time := by
    rintro n ⟨front, back, rfl, rfl⟩
    induction front with
    | nil => exact ⟨0, Nat.le_refl 0, if_pos rfl⟩
    | cons d front ih =>
        obtain ⟨k, hle, hk⟩ := ih
        rw [List.cons_append, List.cons_append, firstIndex, Text.width_cons]
        split
        · exact ⟨0, Nat.zero_le _, rfl⟩
        · exact ⟨k + d.utf8Size, by omega, by rw [hk]; rfl⟩

/-! ## Characters and literals -/

/-- A character begins a text if its bytes do. -/
theorem isPrefixOf_bytes_iff (c : Char) (haystack : Text) :
    (Text.bytes [c]).isPrefixOf haystack.bytes = true ↔ haystack.head? = some c := by
  rw [List.isPrefixOf_iff_prefix, Text.bytes_prefix_iff, List.head?_eq_some_iff]
  constructor
  · rintro ⟨rest, rfl⟩
    exact ⟨rest, rfl⟩
  · rintro ⟨rest, rfl⟩
    exact ⟨rest, rfl⟩

/-- A character is sought as the literal of itself is. -/
theorem char_eq_literal (c : Char) : char c = literal [c] := by
  show (⟨(char c).find⟩ : Matcher) = ⟨(literal [c]).find⟩
  congr 1
  funext haystack anchored
  cases anchored with
  | true =>
      simp only [char, literal, isPrefixOf_bytes_iff]
      rfl
  | false =>
      have hsame : firstIndex c haystack = firstOccurrence (Text.bytes [c]) haystack.bytes :=
        (firstIndex_findsText c haystack).unique (firstOccurrence_findsText [c] haystack)
      simp only [char, literal, hsame]
      rfl

end Matcher

/-- Two commands that differ at most in whether a character or the literal of it is sought. -/
inductive Command.Respelled : Command → Command → Prop
  | same (command : Command) : Respelled command command
  | asLiteral (mode : MatchMode) (c : Char) :
      Respelled (.attempt mode (.char c)) (.attempt mode (.literal [c]))
  | asChar (mode : MatchMode) (c : Char) :
      Respelled (.attempt mode (.literal [c])) (.attempt mode (.char c))

theorem Command.Respelled.eq {command command' : Command} (h : command.Respelled command') :
    command = command' := by
  cases h with
  | same => rfl
  | asLiteral mode c => rw [Matcher.char_eq_literal]
  | asChar mode c => rw [Matcher.char_eq_literal]

/-- **A character is the literal of itself**: the two match every haystack alike, anchored or not,
    with a span of as many bytes as the character has, and commands that seek the one or the other
    lead to the same answers and cursors. -/
theorem characters_are_literals :
    (∀ (c : Char) (haystack : Text) (anchored : Bool),
      (Matcher.char c).find haystack anchored = (Matcher.literal [c]).find haystack anchored ∧
      ∀ found, (Matcher.char c).find haystack anchored = some found →
        found.stop = found.start + c.utf8Size) ∧
    ∀ (cursor : Cursor) (commands commands' : List Command),
      List.Forall₂ Command.Respelled commands commands' →
        cursor.performAll commands = cursor.performAll commands' := by
  constructor
  · intro c haystack anchored
    refine ⟨by rw [Matcher.char_eq_literal], ?_⟩
    intro found hfound
    obtain ⟨start, -, rfl⟩ := Option.map_eq_some_iff.mp hfound
    rfl
  · intro cursor commands commands' hrespelled
    have hsame : commands = commands' :=
      List.forall₂_eq_eq_eq ▸ hrespelled.imp fun _ _ => Command.Respelled.eq
    rw [hsame]

/-- A character of three bytes behind one that begins with the same byte, sought as a character and
    as a literal, and a check of it that fails. -/
theorem characters_are_literals_behind_a_lead_byte :
    List.Forall₂ Command.Respelled
        [.attempt .check (.char '€'), .attempt .skipUntil (.char '€'), .take 1]
        [.attempt .check (.literal ['€']), .attempt .skipUntil (.literal ['€']), .take 1] ∧
      (Matcher.char '€').find ['₭', '€', 'a'] false = some ⟨3, 6⟩ ∧
      (Matcher.literal ['€']).find ['₭', '€', 'a'] false = some ⟨3, 6⟩ ∧
      (Cursor.ofText ['₭', '€', 'a'] Window.standard).performAll
          [.attempt .check (.char '€'), .attempt .skipUntil (.char '€'), .take 1] =
        (Cursor.ofText ['₭', '€', 'a'] Window.standard).performAll
          [.attempt .check (.literal ['€']), .attempt .skipUntil (.literal ['€']), .take 1] := by
  obtain ⟨hfind, hperform⟩ := characters_are_literals
  have hrespelled : List.Forall₂ Command.Respelled
      [.attempt .check (.char '€'), .attempt .skipUntil (.char '€'), .take 1]
      [.attempt .check (.literal ['€']), .attempt .skipUntil (.literal ['€']), .take 1] :=
    .cons (.asLiteral _ _) (.cons (.asLiteral _ _) (.cons (.same _) .nil))
  have hchar : (Matcher.char '€').find ['₭', '€', 'a'] false = some ⟨3, 6⟩ := by decide
  exact ⟨hrespelled, hchar, (hfind '€' _ false).1.symm.trans hchar, hperform _ _ _ hrespelled⟩

/-! ## Literals as matchers -/

namespace Matcher

variable {sought t haystack : Text} {m : Matcher} {n : Nat}

/-- A matcher for a text as it stands: a literal, or a character. -/
inductive LooksFor : Text → Matcher → Prop
  | literal (t : Text) : LooksFor t (literal t)
  | char (c : Char) : LooksFor [c] (char c)

/-- What looks for a text is the literal of it. -/
theorem LooksFor.eq_literal (h : LooksFor t m) : m = Matcher.literal t := by
  cases h with
  | literal t => rfl
  | char c => exact char_eq_literal c

/-- An anchored attempt succeeds at a boundary of a haystack. -/
def HitsAt (m : Matcher) (haystack : Text) (n : Nat) : Prop :=
  haystack.isBoundary n = true ∧
    ∃ rest, haystack.after n = .ok rest ∧ (m.find rest true).isSome = true

/-- A seek answers with so many bytes from the least position that has a property, and with nothing
    if none has it. -/
def SeeksLeast (m : Matcher) (width : Nat) (haystack : Text) (P : Nat → Prop) : Prop :=
  (∀ k, m.find haystack false = some ⟨k, k + width⟩ ↔ IsLeast {n | P n} k) ∧
    (m.find haystack false = none ↔ ∀ n, ¬ P n)

/-- Anchored, a literal is found before everything that begins with its text. -/
theorem find_literal_anchored (t back : Text) :
    (literal t).find (t ++ back) true = some ⟨0, t.width⟩ := by
  have hhere : t.bytes.isPrefixOf (Text.bytes (t ++ back)) = true := by
    rw [List.isPrefixOf_iff_prefix, Text.bytes_prefix_iff]
    exact List.prefix_append t back
  show Option.map _ (if t.bytes.isPrefixOf (Text.bytes (t ++ back)) then some 0 else none) = _
  rw [if_pos hhere, Option.map_some, Nat.zero_add]

/-- An anchored attempt compares with the start of the haystack. -/
theorem find_literal_anchored_isSome_iff :
    ((literal t).find haystack true).isSome = true ↔ t <+: haystack := by
  constructor
  · intro hsome
    obtain ⟨found, hfound⟩ := Option.isSome_iff_exists.mp hsome
    obtain ⟨front, back, rfl, -, hanchor⟩ := exists_cut_of_literal hfound
    rw [hanchor rfl]
    exact List.prefix_append t back
  · rintro ⟨back, rfl⟩
    rw [find_literal_anchored]
    rfl

/-- A literal hits where its text stands. -/
theorem hitsAt_literal_iff : (literal t).HitsAt haystack n ↔ t.StandsAt haystack n := by
  constructor
  · rintro ⟨hbound, rest, hafter, hsome⟩
    obtain ⟨front, back, rfl, rfl⟩ := Text.isBoundary_iff.mp hbound
    obtain rfl := Except.ok.inj ((Text.after_append front back).symm.trans hafter)
    obtain ⟨more, rfl⟩ := find_literal_anchored_isSome_iff.mp hsome
    exact ⟨front, more, (List.append_assoc front t more).symm, rfl⟩
  · rintro ⟨front, back, rfl, rfl⟩
    rw [List.append_assoc]
    refine ⟨Text.isBoundary_append _ _, t ++ back, Text.after_append _ _, ?_⟩
    exact find_literal_anchored_isSome_iff.mpr (List.prefix_append t back)

/-- A literal seeks what its search in bytes finds. -/
theorem seeksLeast_literal {P : Nat → Prop}
    (h : FindsLeast P (firstOccurrence t.bytes haystack.bytes)) :
    (literal t).SeeksLeast t.width haystack P := by
  have hfind : (literal t).find haystack false =
      (firstOccurrence t.bytes haystack.bytes).map fun start => ⟨start, start + t.width⟩ := rfl
  constructor
  · intro k
    rw [← h.eq_some_iff, hfind, Option.map_eq_some_iff]
    constructor
    · rintro ⟨start, hstart, hspan⟩
      rw [hstart, (Span.mk.inj hspan).1]
    · intro hk
      exact ⟨k, hk, rfl⟩
  · rw [← h.eq_none_iff, hfind, Option.map_eq_none_iff]

end Matcher

/-- If a text stands nowhere sooner, then what ends with it is the shortest that contains it. -/
theorem Text.shortestContaining_of_least {t u v : Text}
    (hleast : ∀ n, t.StandsAt (u ++ t ++ v) n → u.width ≤ n) :
    ShortestContaining t (u ++ t ++ v) (u ++ t) where
  is_beginning := List.prefix_append _ v
  contains := ⟨u, [], List.append_nil _⟩
  shortest := by
    rintro p ⟨q, hp⟩ ⟨x, y, rfl⟩
    have hstands : t.StandsAt (u ++ t ++ v) (width x) :=
      ⟨x, y ++ q, by rw [← hp, List.append_assoc], rfl⟩
    have hle := hleast _ hstands
    have hcut : u ++ t ++ v = x ++ t ++ y ++ q := hp.symm
    have hends : width (u ++ t) ≤ width (x ++ t ++ y) := by
      simp only [width_append]
      omega
    obtain ⟨more, hmore, -⟩ := Text.cut_mono hcut hends
    exact ⟨more, hmore.symm⟩

/-! ## Seeking and scanning -/

namespace Cursor

variable {c : Cursor} {text front back sought t u v : Text} {m : Matcher} {position n : Nat}

/-- The cursor can be moved to a position, and a scan succeeds there. -/
def ScansAt (c : Cursor) (m : Matcher) (position : Nat) : Prop :=
  ∃ moved b, c.moveTo position = .ok (position, moved) ∧ moved.scan m = .ok b ∧
    b.consumed.isSome = true

/-- The first position from the offset on at which a scan succeeds. -/
def ScansFirstAt (c : Cursor) (m : Matcher) (position : Nat) : Prop :=
  IsLeast {position | c.offset ≤ position ∧ c.ScansAt m position} position

/-- What a seek comes to, in terms of what it seeks and of scans. -/
structure SeeksAsScans (c : Cursor) (m : Matcher) (sought rest : Text) (a : Attempt) : Prop where
  shortest : ∀ t, a.consumed = some t ↔ Text.ShortestContaining sought rest t
  passes : ∀ t, a.consumed = some t → sought <:+ t ∧
    a.cursor = { c with offset := c.offset + t.width, latest := some t }
  nowhere : (∀ position, ¬ (c.offset ≤ position ∧ c.ScansAt m position)) →
    a.consumed = none ∧ a.cursor = c
  /-- The cursor ends where a scan at the first such position does, and what the seek consumes is
      the text up to there, followed by what the scan consumes. -/
  there : ∀ position, c.ScansFirstAt m position → ∃ skipped moved b,
    c.text.slice? c.offset position = some skipped ∧
    c.moveTo position = .ok (position, moved) ∧ moved.scan m = .ok b ∧
    b.consumed = some sought ∧ a.consumed = b.consumed.map (skipped ++ ·) ∧
    a.cursor.offset = b.cursor.offset

namespace Between

/-- An attempt that finds its literal behind a text consumes both. -/
theorem attempt_of_cut (h : c.Between front (u ++ t ++ v)) (fits : c.text.width < wordLimit)
    {anchored : Bool} (hfind : m.find (u ++ t ++ v) anchored = some ⟨u.width, u.width + t.width⟩)
    (hanchor : anchored = true → u = []) (advance : Bool) :
    c.attempt m advance anchored = .ok ⟨some (u ++ t),
      { c with
        offset := if advance then c.offset + Text.width (u ++ t) else c.offset,
        latest := some (u ++ t) },
      .matched c.offset (c.offset + Text.width (u ++ t)) anchored advance (u ++ t)⟩ := by
  refine h.attempt_of_consumedBy_some fits hfind ?_ advance
  refine (h.consumedBy_eq_some_iff fits).mpr ⟨?_, Nat.le_add_right _ _, ?_, v, rfl⟩
  · intro ha
    rw [hanchor ha]
    rfl
  · rw [Text.width_append]

/-- A cursor that is moved to where a text stands scans it. -/
theorem scan_of_cut (h : c.Between front (u ++ t ++ v)) (fits : c.text.width < wordLimit) :
    ∃ moved b, c.moveTo (c.offset + u.width) = .ok (c.offset + u.width, moved) ∧
      moved.scan (.literal t) = .ok b ∧ b.consumed = some t ∧
      b.cursor.offset = c.offset + Text.width (u ++ t) := by
  have hpassed : { c with offset := c.offset + u.width }.Between (front ++ u) ([] ++ t ++ v) :=
    h.passed (List.append_assoc u t v)
  have hfind : (Matcher.literal t).find ([] ++ t ++ v) true =
      some ⟨Text.width [], Text.width [] + t.width⟩ := by
    rw [Text.width_nil, Nat.zero_add]
    exact Matcher.find_literal_anchored t v
  have hscan := hpassed.attempt_of_cut fits hfind (fun _ => rfl) true
  refine ⟨_, _, moveTo_eq_self_iff.mpr ⟨hpassed.isBoundary, rfl⟩, hscan, rfl, ?_⟩
  show c.offset + u.width + t.width = _
  rw [Text.width_append, Nat.add_assoc]

/-- Scans for a literal succeed where it stands in the rest. -/
theorem scansAt_iff (h : c.Between front back) (fits : c.text.width < wordLimit) :
    c.ScansAt (.literal t) (c.offset + n) ↔ t.StandsAt back n := by
  constructor
  · rintro ⟨moved, b, hmove, hscan, hsome⟩
    obtain ⟨hbound, rfl⟩ := moveTo_eq_self_iff.mp hmove
    rw [h.text_eq, h.offset_eq, Text.isBoundary_width_add] at hbound
    obtain ⟨u, v, rfl, rfl⟩ := Text.isBoundary_iff.mp hbound
    obtain ⟨b', hscan', hfound, -⟩ := (h.passed rfl).attempt_of_keepsContract fits
      (Matcher.BuiltIn.literal t).keepsContract true true
    obtain rfl := Except.ok.inj (hscan.symm.trans hscan')
    obtain ⟨more, rfl⟩ := Matcher.find_literal_anchored_isSome_iff.mp (hfound.symm.trans hsome)
    exact ⟨u, more, (List.append_assoc u t more).symm, rfl⟩
  · rintro ⟨u, v, rfl, rfl⟩
    obtain ⟨moved, b, hmove, hscan, hconsumed, -⟩ := h.scan_of_cut fits
    exact ⟨moved, b, hmove, hscan, by rw [hconsumed]; rfl⟩

/-- The first position at which a scan succeeds is the first at which the literal stands. -/
theorem scansFirstAt_iff (h : c.Between front back) (fits : c.text.width < wordLimit) :
    c.ScansFirstAt (.literal t) (c.offset + n) ↔ IsLeast {n | t.StandsAt back n} n := by
  constructor
  · rintro ⟨⟨-, hscans⟩, hleast⟩
    refine ⟨(h.scansAt_iff fits).mp hscans, ?_⟩
    intro k hk
    exact Nat.le_of_add_le_add_left
      (hleast ⟨Nat.le_add_right _ _, (h.scansAt_iff fits).mpr hk⟩)
  · rintro ⟨hstands, hleast⟩
    refine ⟨⟨Nat.le_add_right _ _, (h.scansAt_iff fits).mpr hstands⟩, ?_⟩
    rintro position ⟨hle, hscans⟩
    obtain ⟨k, rfl⟩ := Nat.exists_eq_add_of_le hle
    exact Nat.add_le_add_left (hleast ((h.scansAt_iff fits).mp hscans)) _

/-- Where the literal does not stand in the rest, a seek finds nothing and no scan succeeds. -/
theorem seeksAsScans_nowhere (h : c.Between front back) (fits : c.text.width < wordLimit)
    (hnone : ∀ n, ¬ t.StandsAt back n) :
    ∃ a, c.scanUntil (.literal t) = .ok a ∧ c.SeeksAsScans (.literal t) t back a := by
  have hfind : (Matcher.literal t).find back false = none :=
    (Matcher.seeksLeast_literal (Matcher.firstOccurrence_findsText t back)).2.mpr hnone
  refine ⟨_, h.attempt_of_find_none hfind true, ?_, nofun, fun _ => ⟨rfl, rfl⟩, ?_⟩
  · intro p
    refine ⟨nofun, fun hshortest => ?_⟩
    obtain ⟨more, rfl⟩ := hshortest.is_beginning
    obtain ⟨x, y, rfl⟩ := hshortest.contains
    exact absurd ⟨x, y ++ more, List.append_assoc _ _ _, rfl⟩ (hnone (Text.width x))
  · rintro position ⟨⟨hle, hscans⟩, -⟩
    obtain ⟨k, rfl⟩ := Nat.exists_eq_add_of_le hle
    exact absurd ((h.scansAt_iff fits).mp hscans) (hnone k)

/-- Where the literal stands first, there a seek ends. -/
theorem seeksAsScans_first (h : c.Between front (u ++ t ++ v)) (fits : c.text.width < wordLimit)
    (hfirst : IsLeast {n | t.StandsAt (u ++ t ++ v) n} u.width) :
    ∃ a, c.scanUntil (.literal t) = .ok a ∧ c.SeeksAsScans (.literal t) t (u ++ t ++ v) a := by
  have hfind : (Matcher.literal t).find (u ++ t ++ v) false = some ⟨u.width, u.width + t.width⟩ :=
    ((Matcher.seeksLeast_literal (Matcher.firstOccurrence_findsText t _)).1 _).mpr hfirst
  have hshortest := Text.shortestContaining_of_least fun n hn => hfirst.2 hn
  refine ⟨_, h.attempt_of_cut fits hfind nofun true, ?_, ?_, ?_, ?_⟩
  · intro p
    constructor
    · intro hp
      rw [← Option.some.inj hp]
      exact hshortest
    · intro hp
      rw [hshortest.unique hp]
  · intro p hp
    obtain rfl := Option.some.inj hp
    exact ⟨List.suffix_append u t, rfl⟩
  · intro hnowhere
    exact absurd ((h.scansFirstAt_iff fits).mpr hfirst).1 (hnowhere _)
  · intro position hposition
    obtain rfl := hposition.unique ((h.scansFirstAt_iff fits).mpr hfirst)
    obtain ⟨moved, b, hmove, hscan, hconsumed, hoffset⟩ := h.scan_of_cut fits
    refine ⟨u, moved, b, ?_, hmove, hscan, hconsumed, by rw [hconsumed]; rfl, hoffset.symm⟩
    refine Text.slice?_eq_some_iff.mpr ⟨front, t ++ v, ?_, h.offset_eq, rfl⟩
    rw [h.text_eq, List.append_assoc u, ← List.append_assoc]

end Between

/-- **A seek for a text as it stands is the first hit**: the leftmost span that a literal or a
    character finds begins at the least boundary from which an anchored attempt succeeds, which is
    the least position where its bytes are found.  So a seek consumes the shortest beginning of the
    rest that contains the text, and ends where a scan ends that is made at the first position, from
    the offset on, where one succeeds.  What it consumes is the text up to that position, followed
    by what the scan consumes. -/
theorem seeks_are_first_hits (hm : m.LooksFor sought) :
    (∀ haystack, m.SeeksLeast sought.width haystack (m.HitsAt haystack) ∧
      m.SeeksLeast sought.width haystack (sought.BytesAt haystack)) ∧
    ∀ (text : Text) (c : Cursor), c.Reached text → text.width < wordLimit →
      ∃ rest a, c.rest = .ok rest ∧ c.scanUntil m = .ok a ∧ c.SeeksAsScans m sought rest a := by
  obtain rfl := hm.eq_literal
  constructor
  · intro haystack
    have hsame : (Matcher.literal sought).HitsAt haystack = sought.StandsAt haystack :=
      funext fun n => propext Matcher.hitsAt_literal_iff
    rw [hsame]
    exact ⟨Matcher.seeksLeast_literal (Matcher.firstOccurrence_findsText sought haystack),
      Matcher.seeksLeast_literal (Matcher.firstOccurrence_findsBytes sought haystack)⟩
  · intro text c h fits
    obtain ⟨front, back, hb, fits'⟩ := h.between fits
    have hfinds := Matcher.firstOccurrence_findsText sought back
    refine ⟨back, ?_⟩
    cases hanswer : Matcher.firstOccurrence sought.bytes back.bytes with
    | none =>
        obtain ⟨a, hok, hseeks⟩ := hb.seeksAsScans_nowhere fits' (hfinds.eq_none_iff.mp hanswer)
        exact ⟨a, hb.rest_eq, hok, hseeks⟩
    | some k =>
        have hfirst := (hfinds.eq_some_iff k).mp hanswer
        obtain ⟨u, v, rfl, rfl⟩ := hfirst.1
        obtain ⟨a, hok, hseeks⟩ := hb.seeksAsScans_first fits' hfirst
        exact ⟨a, hb.rest_eq, hok, hseeks⟩

/-- Behind a character of two bytes, a text of two characters whose first one is met once before the
    text itself. -/
theorem seeks_are_first_hits_behind_a_false_start :
    (⟨['é', 'a', 'é', 'é', 'a'], 2, none, Window.standard⟩ : Cursor).Reached
        ['é', 'a', 'é', 'é', 'a'] ∧
      Text.width ['é', 'a', 'é', 'é', 'a'] < wordLimit ∧
      Matcher.LooksFor ['é', 'a'] (.literal ['é', 'a']) ∧
      IsLeast {n | (Matcher.literal ['é', 'a']).HitsAt ['a', 'é', 'é', 'a'] n} 3 ∧
      Text.ShortestContaining ['é', 'a'] ['a', 'é', 'é', 'a'] ['a', 'é', 'é', 'a'] ∧
      ∃ a, (⟨['é', 'a', 'é', 'é', 'a'], 2, none, Window.standard⟩ : Cursor).scanUntil
          (.literal ['é', 'a']) = .ok a ∧
        a.consumed = some ['a', 'é', 'é', 'a'] ∧ a.cursor.offset = 8 := by
  have fits : Text.width ['é', 'a', 'é', 'é', 'a'] < wordLimit := by decide
  have hmoved : (Cursor.ofText ['é', 'a', 'é', 'é', 'a'] Window.standard).perform (.moveTo 2) =
      .ok ⟨.number 2, ⟨['é', 'a', 'é', 'é', 'a'], 2, none, Window.standard⟩, []⟩ := by rfl
  have hreached := Reached.command _ (.start Window.standard) hmoved
  obtain ⟨hseeks, hscans⟩ := seeks_are_first_hits (.literal ['é', 'a'])
  obtain ⟨rest, a, hrest, hok, hscans⟩ := hscans _ _ hreached fits
  obtain rfl : ['a', 'é', 'é', 'a'] = rest := Except.ok.inj hrest
  have hfind : (Matcher.literal ['é', 'a']).find ['a', 'é', 'é', 'a'] false = some ⟨3, 6⟩ := by
    decide
  have hconsumed : a.consumed = some ['a', 'é', 'é', 'a'] := by
    rw [← Except.ok.inj hok]
  refine ⟨hreached, fits, .literal _, ((hseeks _).1.1 3).mp hfind, (hscans.shortest _).mp hconsumed,
    a, hok, hconsumed, ?_⟩
  rw [(hscans.passes _ hconsumed).2]
  rfl

/-- A seek does not answer as the scan does at the first position where one succeeds: before that
    position it consumes what it passes. -/
theorem seek_answers_with_more_than_the_scan :
    ¬ ∀ (text : Text) (c : Cursor), c.Reached text → text.width < wordLimit →
      ∀ (sought : Text) (m : Matcher), m.LooksFor sought →
        ∀ (position : Nat) (moved : Cursor) (a b : Attempt), c.ScansFirstAt m position →
          c.moveTo position = .ok (position, moved) → moved.scan m = .ok b →
            c.scanUntil m = .ok a →
              a.consumed = b.consumed ∧ a.cursor.offset = b.cursor.offset := by
  intro hall
  have hmove : (Cursor.ofText ['x', 'a'] Window.standard).moveTo 1 =
      .ok (1, ⟨['x', 'a'], 1, none, Window.standard⟩) := by rfl
  have hscan : (⟨['x', 'a'], 1, none, Window.standard⟩ : Cursor).scan (.char 'a') =
      .ok ⟨some ['a'], ⟨['x', 'a'], 2, some ['a'], Window.standard⟩,
        .matched 1 2 true true ['a']⟩ := by rfl
  have hseek : (Cursor.ofText ['x', 'a'] Window.standard).scanUntil (.char 'a') =
      .ok ⟨some ['x', 'a'], ⟨['x', 'a'], 2, some ['x', 'a'], Window.standard⟩,
        .matched 0 2 false true ['x', 'a']⟩ := by rfl
  have hfirst : (Cursor.ofText ['x', 'a'] Window.standard).ScansFirstAt (.char 'a') 1 := by
    refine ⟨⟨Nat.zero_le _, _, _, hmove, hscan, rfl⟩, ?_⟩
    rintro position ⟨-, moved, b, hmoved, hb, hsome⟩
    -- at the start of the text a scan finds the other character
    refine Nat.pos_of_ne_zero ?_
    rintro rfl
    obtain ⟨-, rfl⟩ := moveTo_eq_self_iff.mp hmoved
    have hnone : (Cursor.ofText ['x', 'a'] Window.standard).scan (.char 'a') =
        .ok ⟨none, Cursor.ofText ['x', 'a'] Window.standard, .noMatch 0 true true⟩ := by rfl
    obtain rfl := Except.ok.inj (hnone.symm.trans hb)
    exact nomatch hsome
  obtain ⟨hsame, -⟩ := hall ['x', 'a'] _ (.start Window.standard) (by decide) ['a'] _ (.char 'a') 1
    _ _ _ hfirst hmove hscan hseek
  exact nomatch Option.some.inj hsame

end Cursor

end TextCursor
