import TextCursor.Proofs.AnchoredSearch
import TextCursor.Proofs.IllFormedSpans
import TextCursor.Proofs.Occurrences

/-! # Matchers that keep their contract

    A matcher may answer with anything, and a cursor looks at what it gets.  The
    matchers that come with the cursor need not be looked at: what they answer is
    well-formed for every haystack, `Span.WellFormed`.

    * A literal or a character answers with a part of the haystack, by the module
      on occurrences.
    * A regular expression is as good as its searches.  A walk through a haystack
      only begins and ends matches between the characters it has read, so the
      matches of a program lie in what was read (`walkFrom_wellFormed`), and an
      anchored search finds nothing that starts later.

    The matchers made of regular expressions are stated for any two searches with
    these two properties, and the programs are shown to have them. -/

namespace TextCursor

namespace Span

/-- What a matcher may report for a haystack. -/
structure WellFormed (haystack : Text) (anchored : Bool) (found : Span) : Prop where
  ordered : found.start ≤ found.stop
  stop_le : found.stop ≤ haystack.width
  start_boundary : haystack.isBoundary found.start = true
  stop_boundary : haystack.isBoundary found.stop = true
  at_start : anchored = true → found.start = 0

namespace WellFormed

variable {haystack : Text} {anchored : Bool} {found : Span}

/-- Where a part of the haystack stands. -/
theorem of_cut (front part back : Text) (hanchor : anchored = true → front = []) :
    WellFormed (front ++ part ++ back) anchored ⟨front.width, front.width + part.width⟩ where
  ordered := Nat.le_add_right _ _
  stop_le := by simp
  start_boundary := by simpa using Text.isBoundary_append front (part ++ back)
  stop_boundary := by simpa using Text.isBoundary_append (front ++ part) back
  at_start := by
    intro ha
    rw [hanchor ha]
    rfl

/-- What may be reported for a beginning of the haystack may be reported for all of it. -/
theorem append (h : found.WellFormed haystack anchored) (more : Text) :
    found.WellFormed (haystack ++ more) anchored where
  ordered := h.ordered
  stop_le := by
    rw [Text.width_append]
    exact Nat.le_add_right_of_le h.stop_le
  start_boundary := Text.isBoundary_append_of_isBoundary h.start_boundary more
  stop_boundary := Text.isBoundary_append_of_isBoundary h.stop_boundary more
  at_start := h.at_start

/-- A span that starts at 0 may be reported for an anchored attempt. -/
theorem anchor (h : found.WellFormed haystack false) (hzero : found.start = 0) :
    found.WellFormed haystack true where
  ordered := h.ordered
  stop_le := h.stop_le
  start_boundary := h.start_boundary
  stop_boundary := h.stop_boundary
  at_start := fun _ => hzero

/-- A match that ends where reading has come to. -/
theorem ending {start : Nat} (hstart : haystack.isBoundary start = true) :
    WellFormed haystack false ⟨start, haystack.width⟩ where
  ordered := Text.le_width_of_isBoundary hstart
  stop_le := Nat.le_refl _
  start_boundary := hstart
  stop_boundary := Text.isBoundary_width haystack
  at_start := nofun

end WellFormed

end Span

/-! ## Searches of programs -/

namespace Regex.Program

variable {p : Program}

/-- The best match lies in what was read, if the one before does and a new one begins there. -/
theorem better_wellFormed {read : Text} {found : Option Nat} {best : Option Span}
    (hfound : ∀ start ∈ found, read.isBoundary start = true)
    (hbest : ∀ s ∈ best, s.WellFormed read false) :
    ∀ s ∈ better read.width found best, s.WellFormed read false := by
  cases found with
  | none => exact hbest
  | some start =>
      intro s hs
      obtain rfl := Option.some.inj hs
      exact .ending (hfound start rfl)

/-- A walk that has begun its threads between the characters read, and found its best match there,
    ends with a match in the haystack. -/
theorem walkFrom_wellFormed (p : Program) (anchored : Bool) (rest : Text) :
    ∀ (read : Text) (front : Front) (best : Option Span),
      front.Began (fun n => read.isBoundary n = true) → (∀ s ∈ best, s.WellFormed read false) →
        ∀ s ∈ p.walkFrom anchored read.width front best rest,
          s.WellFormed (read ++ rest) false := by
  induction rest with
  | nil =>
      intro read front best hbegan hbest s hs
      rw [List.append_nil]
      exact better_wellFormed (p.accepted_began hbegan) hbest s hs
  | cons c rest ih =>
      intro read front best hbegan hbest s hs
      obtain ⟨hnext, hfound⟩ := p.lead_began hbegan c rest.head?
      have hbetter := better_wellFormed hfound hbest
      have hposition : read.width + c.utf8Size = (read ++ [c]).width := by simp
      -- a boundary of what was read stays one when a character more is read
      have hgrow : ∀ n, read.isBoundary n = true → (read ++ [c]).isBoundary n = true :=
        fun n hn => Text.isBoundary_append_of_isBoundary hn [c]
      rw [walkFrom_cons, hposition] at hs
      rw [List.append_cons]
      split at hs
      · exact ((hbest s hs).append [c]).append rest
      · refine ih (read ++ [c]) _ _ ?_ (fun s hs => (hbetter s hs).append [c]) s hs
        refine ((entering_extends anchored _ _ _ rest).mono ?_).began
          (fun t ht => hgrow t.start (hnext t ht))
        rintro n rfl
        exact Text.isBoundary_width _

/-- Every match of a program may be reported, anchored or not. -/
theorem search_wellFormed (p : Program) (anchored : Bool) (haystack : Text) {found : Span}
    (h : p.search anchored haystack = some found) : found.WellFormed haystack anchored := by
  have hseek : ∀ s, p.search false haystack = some s → s.WellFormed haystack false := by
    intro s hs
    rw [search, walk_eq] at hs
    refine p.walkFrom_wellFormed false haystack [] _ none ?_ (by simp) s hs
    refine ((entering_extends false 0 _ none haystack).mono ?_).began (Front.began_of_isEmpty rfl)
    rintro n rfl
    exact Text.isBoundary_zero []
  cases anchored with
  | false => exact hseek found h
  | true =>
      rw [search_anchored, Option.filter_eq_some_iff] at h
      exact (hseek found h.1).anchor (by simpa using h.2)

end Regex.Program

namespace Matcher

/-! ## Matchers that come with the cursor -/

/-- Whatever the matcher answers, it may report. -/
def KeepsContract (m : Matcher) : Prop :=
  ∀ haystack anchored found, m.find haystack anchored = some found →
    found.WellFormed haystack anchored

/-- The matchers that come with the cursor: literals, characters, and regular expressions over any
    searches whose matches are ranges between characters, at 0 when anchored. -/
inductive BuiltIn : Matcher → Prop
  | literal (sought : Text) : BuiltIn (literal sought)
  | char (sought : Char) : BuiltIn (char sought)
  /-- A regular expression that always seeks. -/
  | seeking (find : Text → Option Span)
      (hfind : ∀ haystack found, find haystack = some found → found.WellFormed haystack false) :
      BuiltIn (keepingStart find)
  /-- A regular expression with a search of its own for the start of a haystack. -/
  | prepared (find findAtStart : Text → Option Span)
      (hfind : ∀ haystack found, find haystack = some found → found.WellFormed haystack false)
      (hatStart : ∀ haystack found, findAtStart haystack = some found →
        found.WellFormed haystack true) :
      BuiltIn (choosing find findAtStart)

theorem ofRegex_builtIn (r : Regex) : (ofRegex r).BuiltIn :=
  .seeking r.find fun haystack _ h => r.program.search_wellFormed false haystack h

theorem ofPrepared_builtIn (q : PreparedRegex) : (ofPrepared q).BuiltIn :=
  .prepared q.seeking.find q.anchored.findAtStart
    (fun haystack _ h => q.seeking.program.search_wellFormed false haystack h)
    (fun haystack _ h => q.anchored.program.search_wellFormed true haystack h)

/-- Whatever the matchers that come with the cursor answer, they may report. -/
theorem BuiltIn.keepsContract {m : Matcher} (h : m.BuiltIn) : m.KeepsContract := by
  intro haystack anchored found hfound
  cases h with
  | literal sought =>
      obtain ⟨front, back, rfl, rfl, hanchor⟩ := exists_cut_of_literal hfound
      exact .of_cut front sought back hanchor
  | char sought =>
      obtain ⟨front, back, rfl, rfl, hanchor⟩ := exists_cut_of_char hfound
      exact .of_cut front [sought] back hanchor
  | seeking find hfind =>
      rw [find_keepingStart] at hfound
      cases anchored with
      | false => exact hfind haystack found hfound
      | true =>
          rw [if_pos rfl, Option.filter_eq_some_iff] at hfound
          exact (hfind haystack found hfound.1).anchor (by simpa using hfound.2)
  | prepared find findAtStart hfind hatStart =>
      cases anchored with
      | false => exact hfind haystack found hfound
      | true => exact hatStart haystack found hfound

end Matcher

namespace Cursor

variable {c : Cursor} {text front back : Text} {m : Matcher}

/-- A span that may be reported is consumed. -/
theorem Between.consumedBy_isSome_of_wellFormed (h : c.Between front back)
    (fits : c.text.width < wordLimit) {found : Span} {anchored : Bool}
    (hfound : found.WellFormed back anchored) : (c.consumedBy found anchored).isSome = true :=
  (h.consumedBy_isSome_iff fits).mpr ⟨hfound.at_start, hfound.ordered, hfound.stop_boundary⟩

/-- An attempt with a matcher that keeps its contract consumes a text if and only if the matcher
    finds something, and has nothing to complain about. -/
theorem Between.attempt_of_keepsContract (h : c.Between front back)
    (fits : c.text.width < wordLimit) (hm : m.KeepsContract) (advance anchored : Bool) :
    ∃ a, c.attempt m advance anchored = .ok a ∧
      (a.consumed.isSome = (m.find back anchored).isSome) ∧
      ∀ found anchored', a.event ≠ .brokenContract found anchored' := by
  cases hfind : m.find back anchored with
  | none => exact ⟨_, h.attempt_of_find_none hfind advance, rfl, nofun⟩
  | some found =>
      have hsome := h.consumedBy_isSome_of_wellFormed fits (hm back anchored found hfind)
      obtain ⟨t, ht⟩ := Option.isSome_iff_exists.mp hsome
      exact ⟨_, h.attempt_of_consumedBy_some fits hfind ht advance, rfl, nofun⟩

/-- **The matchers that come with the cursor keep their contract**: in every state and in all six
    ways to match, what they answer is a range between characters of the rest, at 0 when anchored.
    So there is an answer exactly when the matcher has found something, and no span is ever
    refused. -/
theorem built_in_matchers_keep_their_contract (h : c.Reached text)
    (fits : text.width < wordLimit) :
    (∀ r : Regex, (Matcher.ofRegex r).BuiltIn) ∧
    (∀ q : PreparedRegex, (Matcher.ofPrepared q).BuiltIn) ∧
    ∃ rest, c.rest = .ok rest ∧ ∀ (m : Matcher) (mode : MatchMode), m.BuiltIn →
      (∀ found, m.find rest mode.anchored = some found → found.WellFormed rest mode.anchored) ∧
      ∃ p, c.perform (.attempt mode m) = .ok p ∧
        (p.reply ≠ .nothing ↔ (m.find rest mode.anchored).isSome = true) ∧
        ∀ found anchored, AttemptEvent.brokenContract found anchored ∉ p.events := by
  obtain ⟨front, back, hb, fits'⟩ := h.between fits
  refine ⟨Matcher.ofRegex_builtIn, Matcher.ofPrepared_builtIn, back, hb.rest_eq, ?_⟩
  intro m mode hbuiltIn
  have hm := hbuiltIn.keepsContract
  refine ⟨hm back mode.anchored, ?_⟩
  obtain ⟨a, hok, hconsumed, hevent⟩ :=
    hb.attempt_of_keepsContract fits' hm mode.advances mode.anchored
  refine ⟨⟨mode.reply a.consumed, a.cursor, [a.event]⟩, ?_, ?_, ?_⟩
  · rw [perform, attemptBy_eq, hok]
    rfl
  · rw [← hconsumed, ne_eq, mode.reply_eq_nothing_iff, Option.isSome_iff_ne_none]
  · intro found anchored hmem
    exact hevent found anchored (List.mem_singleton.mp hmem).symm

/-- A literal and a regular expression for the second of two characters, which begin with the same
    byte, are sought behind the first one. -/
theorem built_in_matchers_keep_their_contract_behind_a_lead_byte :
    (Cursor.ofText ['é', 'è'] Window.standard).Reached ['é', 'è'] ∧
      Text.width ['é', 'è'] < wordLimit ∧
      ((Matcher.literal ['è']).find ['é', 'è'] false = some ⟨2, 4⟩ ∧
        Span.WellFormed ['é', 'è'] false ⟨2, 4⟩ ∧
        ∃ p, (Cursor.ofText ['é', 'è'] Window.standard).perform
            (.attempt .skipUntil (Matcher.literal ['è'])) = .ok p ∧ p.reply ≠ .nothing) ∧
      ∃ r, Regex.compile ['è'] = .ok r ∧ r.find ['é', 'è'] = some ⟨2, 4⟩ ∧
        ∃ p, (Cursor.ofText ['é', 'è'] Window.standard).perform
            (.attempt .scan (Matcher.ofRegex r)) = .ok p ∧ p.reply = .nothing ∧
          ∀ found anchored, AttemptEvent.brokenContract found anchored ∉ p.events := by
  have fits : Text.width ['é', 'è'] < wordLimit := by decide
  refine ⟨.start _, fits, ?_, ?_⟩
  · obtain ⟨-, -, rest, hrest, hall⟩ :=
      built_in_matchers_keep_their_contract (.start Window.standard) fits
    obtain rfl : ['é', 'è'] = rest := Except.ok.inj hrest
    have hfind : (Matcher.literal ['è']).find ['é', 'è'] false = some ⟨2, 4⟩ := by decide
    obtain ⟨hwell, p, hok, hreply, -⟩ := hall (.literal ['è']) .skipUntil (.literal ['è'])
    exact ⟨hfind, hwell _ hfind, p, hok, hreply.mpr (by decide)⟩
  · obtain ⟨hregex, -, rest, hrest, hall⟩ :=
      built_in_matchers_keep_their_contract (.start Window.standard) fits
    obtain rfl : ['é', 'è'] = rest := Except.ok.inj hrest
    have hfinds : ((Regex.compile ['è']).toOption.bind fun r => r.find ['é', 'è']) =
        some ⟨2, 4⟩ := by
      decide +kernel
    cases hr : Regex.compile ['è'] with
    | error e =>
        rw [hr] at hfinds
        exact nomatch hfinds
    | ok r =>
        have hfind : r.find ['é', 'è'] = some ⟨2, 4⟩ := by
          rw [hr] at hfinds
          exact hfinds
        have hnone : (Matcher.ofRegex r).find ['é', 'è'] true = none := by
          rw [Matcher.ofRegex_eq, Matcher.find_keepingStart, hfind]
          rfl
        obtain ⟨-, p, hok, hreply, hevents⟩ := hall (.ofRegex r) .scan (hregex r)
        refine ⟨r, rfl, hfind, p, hok, ?_, hevents⟩
        -- the leftmost match starts behind the first character, so there is none at the start
        rw [show MatchMode.scan.anchored = true from rfl, hnone] at hreply
        simpa using hreply

end Cursor

end TextCursor
