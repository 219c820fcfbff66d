import TextCursor.Cursor.Command
import TextCursor.Regex

/-! # Anchored searches

    A search that is anchored and one that seeks walk a haystack side by side.
    The threads of the anchored one began at the start of the haystack, and so
    did the foremost threads of the other; behind them stand the threads that it
    has started since.  A thread behind others never changes what those in front
    of it do, because nodes are entered in the order of the threads.

    So as long as the anchored search has no match, its threads are a beginning
    of the threads of the other, whose best match, if there is one, starts later
    (`walkFrom_filter`).  Once it has one, that match ends both lists of threads
    and the two searches are the same from there on (`walkFrom_found`).  Where it
    runs out of threads, nothing that starts at 0 is left (`walkFrom_later`).

    Hence the anchored search finds what the other one finds, if that starts at
    0, and a regular expression that always seeks and keeps only such matches is
    the same matcher as one that is prepared for both kinds of searches.

    A prepared one may also come from two compilers, one for each kind of search.
    If they accept the same patterns and both look for the matches that a pattern
    prefers, nothing changes (`Matcher.keepingStart_eq_choosing_of_leftmost`). -/

namespace TextCursor

namespace Regex

namespace Front

/-! ## Threads by their beginnings -/

/-- All threads of a front began at positions that satisfy a condition. -/
def Began (front : Front) (condition : Nat → Prop) : Prop :=
  ∀ t ∈ front.threads.toList, condition t.start

/-- A front with the threads of another one and more behind them, which began at positions that
    satisfy a condition. -/
def Extends (older newer : Front) (condition : Nat → Prop) : Prop :=
  ∃ added, newer.threads.toList = older.threads.toList ++ added ∧ ∀ t ∈ added, condition t.start

variable {a b c : Front} {condition weaker : Nat → Prop}

theorem Extends.refl (front : Front) (condition : Nat → Prop) : front.Extends front condition :=
  ⟨[], by simp⟩

/-- What is added to a longer front is added to the shorter one. -/
theorem Extends.trans (hab : a.Extends b condition) (hbc : b.Extends c condition) :
    a.Extends c condition := by
  obtain ⟨us, hb, hus⟩ := hab
  obtain ⟨vs, hc, hvs⟩ := hbc
  refine ⟨us ++ vs, by rw [hc, hb, List.append_assoc], ?_⟩
  intro t hmem
  rcases List.mem_append.mp hmem with hu | hv
  · exact hus t hu
  · exact hvs t hv

/-- Threads added under a condition are added under each weaker one. -/
theorem Extends.mono (h : a.Extends b condition) (hweaker : ∀ n, condition n → weaker n) :
    a.Extends b weaker := by
  obtain ⟨added, heq, hadded⟩ := h
  exact ⟨added, heq, fun t hmem => hweaker t.start (hadded t hmem)⟩

/-- If a front and what is added to it began under a condition, so did the longer front. -/
theorem Extends.began (h : a.Extends b condition) (ha : a.Began condition) :
    b.Began condition := by
  obtain ⟨added, heq, hadded⟩ := h
  intro t hmem
  rw [heq] at hmem
  rcases List.mem_append.mp hmem with hold | hnew
  · exact ha t hold
  · exact hadded t hnew

theorem began_of_isEmpty (hempty : a.threads.isEmpty = true) : a.Began condition := by
  intro t hmem
  rw [Array.isEmpty_iff.mp hempty] at hmem
  exact nomatch hmem

theorem Extends.isEmpty_eq_false (h : a.Extends b condition) (hsome : a.threads.isEmpty = false) :
    b.threads.isEmpty = false := by
  obtain ⟨added, heq, -⟩ := h
  rw [← Array.isEmpty_toList, List.isEmpty_eq_false_iff] at hsome ⊢
  simp [heq, hsome]

end Front

namespace Program

variable {p : Program} {before after : Option Char} {start : Nat} {condition : Nat → Prop}

/-! ## Threads stay in order -/

/-- Entering nodes adds threads behind those that are there, and all of them begin here. -/
theorem enterAll_extends (steps : Nat) (stack : List Nat) (front : Front) :
    front.Extends (p.enterAll before after start steps stack front) (· = start) := by
  induction steps generalizing stack front with
  | zero => exact .refl front _
  | succ steps ih =>
      obtain ⟨entered, threads⟩ := front
      cases stack with
      | nil => exact .refl _ _
      | cons n stack =>
          rw [enterAll]
          by_cases hentered : entered.getD n true = true
          · rw [if_pos hentered]
            exact ih stack _
          · rw [if_neg hentered]
            cases p.nodes[n]? with
            | none => exact ih stack _
            | some node =>
                -- a node that waits for a character, or accepts, becomes a thread
                have hpush : Front.Extends ⟨entered, threads⟩
                    ⟨entered.setIfInBounds n true, threads.push ⟨n, start⟩⟩ (· = start) :=
                  ⟨[⟨n, start⟩], by simp⟩
                cases node with
                | consume set next => exact hpush.trans (ih stack _)
                | fork first second => exact ih (first :: second :: stack) _
                | require look next =>
                    by_cases hholds : look.holds before after = true
                    · simp only [hholds, if_true]
                      exact ih (next :: stack) _
                    · simp only [hholds]
                      exact ih stack _
                | accept => exact hpush.trans (ih stack _)

/-- Entering one node adds threads that begin here. -/
theorem enter_extends (node : Nat) (front : Front) :
    front.Extends (p.enter before after start node front) (· = start) :=
  enterAll_extends _ _ front

/-- The threads in front are led over a character before those behind them, which are dropped
    when one in front accepts. -/
theorem advance_append (c : Char) (xs ys : List Thread) (front : Front) :
    p.advance c after (xs ++ ys) front =
      match p.advance c after xs front with
      | (next, some start) => (next, some start)
      | (next, none) => p.advance c after ys next := by
  induction xs generalizing front with
  | nil => rfl
  | cons t xs ih =>
      rw [List.cons_append, advance, advance]
      cases p.nodes[t.node]? with
      | none => exact ih front
      | some node =>
          cases node with
          | accept => rfl
          | consume set next =>
              by_cases hmem : set.contains c = true
              · simp only [hmem, if_true]
                exact ih _
              · simp only [hmem]
                exact ih front
          | fork first second => exact ih front
          | require look next => exact ih front

/-- A thread that goes on keeps its beginning, and so does the match found. -/
theorem advance_extends (c : Char) {ts : List Thread} (hts : ∀ t ∈ ts, condition t.start)
    (front : Front) : front.Extends (p.advance c after ts front).1 condition ∧
      ∀ start ∈ (p.advance c after ts front).2, condition start := by
  induction ts generalizing front with
  | nil => exact ⟨.refl front _, by simp [advance]⟩
  | cons t ts ih =>
      obtain ⟨ht, hts⟩ := List.forall_mem_cons.mp hts
      rw [advance]
      cases p.nodes[t.node]? with
      | none => exact ih hts front
      | some node =>
          cases node with
          | accept => exact ⟨.refl front _, by simpa using ht⟩
          | consume set next =>
              by_cases hmem : set.contains c = true
              · simp only [hmem, if_true]
                have hentered : front.Extends (p.enter (some c) after t.start next front)
                    condition := by
                  refine (enter_extends next front).mono ?_
                  rintro n rfl
                  exact ht
                obtain ⟨hextends, hfound⟩ := ih hts (p.enter (some c) after t.start next front)
                exact ⟨hentered.trans hextends, hfound⟩
              · simp only [hmem]
                exact ih hts front
          | fork first second => exact ih hts front
          | require look next => exact ih hts front

/-- Leads the threads of a front over a character. -/
def lead (p : Program) (c : Char) (after : Option Char) (front : Front) : Front × Option Nat :=
  p.advance c after front.threads.toList p.noThreads

/-- Threads led over a character keep their beginnings, and so does the match found. -/
theorem lead_began {front : Front} (h : front.Began condition) (c : Char)
    (after : Option Char) : (p.lead c after front).1.Began condition ∧
      ∀ start ∈ (p.lead c after front).2, condition start := by
  obtain ⟨hextends, hfound⟩ := p.advance_extends c h p.noThreads
  exact ⟨hextends.began (Front.began_of_isEmpty rfl), hfound⟩

/-- Threads behind others change nothing about a match that those in front find; without one they
    are led over the character behind them. -/
theorem lead_extends {front longer : Front} (h : front.Extends longer condition) (c : Char)
    (after : Option Char) :
    (∀ start, (p.lead c after front).2 = some start →
      p.lead c after longer = p.lead c after front) ∧
    ((p.lead c after front).2 = none →
      (p.lead c after front).1.Extends (p.lead c after longer).1 condition ∧
        ∀ start ∈ (p.lead c after longer).2, condition start) := by
  obtain ⟨added, heq, hadded⟩ := h
  have hlonger : p.lead c after longer = match p.lead c after front with
      | (next, some start) => (next, some start)
      | (next, none) => p.advance c after added next := by
    rw [lead, heq, advance_append]
    rfl
  rw [hlonger]
  cases p.lead c after front with
  | mk next found =>
      cases found with
      | some start => exact ⟨fun _ _ => rfl, fun hnone => nomatch hnone⟩
      | none =>
          constructor
          · intro start hsome
            exact nomatch hsome
          · intro _
            exact advance_extends c hadded next

/-- The match accepted began where its thread did. -/
theorem accepted_mem {ts : List Thread} (hts : ∀ t ∈ ts, condition t.start) :
    ∀ start ∈ p.accepted ts, condition start := by
  intro start hstart
  obtain ⟨t, hfind, rfl⟩ := Option.map_eq_some_iff.mp hstart
  exact hts t (List.mem_of_find?_eq_some hfind)

theorem accepted_began {front : Front} (h : front.Began condition) :
    ∀ start ∈ p.accepted front.threads.toList, condition start :=
  accepted_mem h

/-- The first of the threads in front that accepts is preferred. -/
theorem accepted_append (xs ys : List Thread) :
    p.accepted (xs ++ ys) = (p.accepted xs).or (p.accepted ys) := by
  simp only [accepted, List.find?_append]
  cases xs.find? _ <;> rfl

/-! ## A walk between two characters -/

/-- The threads at a position, with one more while nothing has been found and a match may begin
    there. -/
def entering (p : Program) (anchored : Bool) (before : Option Char) (position : Nat)
    (front : Front) (best : Option Span) (rest : Text) : Front :=
  if best.isNone && (!anchored || position == 0) then
    p.enter before rest.head? position p.start front
  else front

/-- The best match at a position: one that ends there, or else the one found before. -/
def better (position : Nat) (found : Option Nat) (best : Option Span) : Option Span :=
  match found with
  | some start => some ⟨start, position⟩
  | none => best

/-- A walk from a position whose threads are complete. -/
def walkFrom (p : Program) (anchored : Bool) (position : Nat) (front : Front)
    (best : Option Span) : Text → Option Span
  | [] => better position (p.accepted front.threads.toList) best
  | c :: rest =>
    if front.threads.isEmpty && (anchored || best.isSome) then best
    else
      let (next, found) := p.lead c rest.head? front
      p.walk anchored (some c) (position + c.utf8Size) next (better position found best) rest

/-- A walk enters what may begin at its position and goes on with those threads. -/
theorem walk_eq (anchored : Bool) (position : Nat) (front : Front) (best : Option Span)
    (rest : Text) : p.walk anchored before position front best rest =
      p.walkFrom anchored position (p.entering anchored before position front best rest) best
        rest := by
  rw [walk.eq_def]
  cases rest with
  | nil =>
      unfold walkFrom better
      rfl
  | cons c rest =>
      unfold walkFrom better
      rfl

/-- A walk goes over one character and enters what may begin behind it. -/
theorem walkFrom_cons (anchored : Bool) (position : Nat) (front : Front) (best : Option Span)
    (c : Char) (rest : Text) : p.walkFrom anchored position front best (c :: rest) =
      if front.threads.isEmpty && (anchored || best.isSome) then best
      else
        let led := p.lead c rest.head? front
        let best' := better position led.2 best
        p.walkFrom anchored (position + c.utf8Size)
          (p.entering anchored (some c) (position + c.utf8Size) led.1 best' rest) best' rest := by
  rw [walkFrom]
  simp only [walk_eq]

/-- While there are threads, they are led over the next character and the walk goes on there. -/
theorem walkFrom_cons_of_threads (anchored : Bool) (position : Nat) {front : Front}
    (hsome : front.threads.isEmpty = false) (best : Option Span) (c : Char) (rest : Text) :
    p.walkFrom anchored position front best (c :: rest) =
      p.walkFrom anchored (position + c.utf8Size)
        (p.entering anchored (some c) (position + c.utf8Size) (p.lead c rest.head? front).1
          (better position (p.lead c rest.head? front).2 best) rest)
        (better position (p.lead c rest.head? front).2 best) rest := by
  simp [walkFrom_cons, hsome]

/-- Threads that are entered begin at this position and stand behind the others. -/
theorem entering_extends (anchored : Bool) (position : Nat) (front : Front) (best : Option Span)
    (rest : Text) : front.Extends (p.entering anchored before position front best rest)
      (· = position) := by
  unfold entering
  split
  · exact enter_extends p.start front
  · exact .refl front _

/-- Behind the start of the haystack, threads that are entered begin later than 0. -/
theorem entering_later (anchored : Bool) {position : Nat} (hpos : 0 < position) (front : Front)
    (best : Option Span) (rest : Text) :
    front.Extends (p.entering anchored before position front best rest) (0 < ·) := by
  refine (entering_extends anchored position front best rest).mono ?_
  rintro n rfl
  exact hpos

/-- Nothing is entered once there is a match. -/
theorem entering_some (anchored : Bool) (position : Nat) (front : Front) (found : Span)
    (rest : Text) : p.entering anchored before position front (some found) rest = front := by
  simp [entering]

/-- An anchored search enters nothing behind the start of the haystack. -/
theorem entering_anchored {position : Nat} (hpos : 0 < position) (front : Front)
    (best : Option Span) (rest : Text) :
    p.entering true before position front best rest = front := by
  simp [entering, Nat.ne_of_gt hpos]

/-- The better match is one of the two. -/
theorem better_mem {position : Nat} {found : Option Nat} {best : Option Span}
    (hfound : ∀ start ∈ found, condition start) (hbest : ∀ s ∈ best, condition s.start) :
    ∀ s ∈ better position found best, condition s.start := by
  cases found with
  | none => exact hbest
  | some start => simpa [better] using hfound

/-- With a match before, there is one after. -/
theorem better_some (position : Nat) {found : Option Nat} {s : Span}
    (hfound : ∀ start ∈ found, condition start) (hs : condition s.start) :
    ∃ s', better position found (some s) = some s' ∧ condition s'.start := by
  cases found with
  | none => exact ⟨s, rfl, hs⟩
  | some start => exact ⟨⟨start, position⟩, rfl, hfound start rfl⟩

/-! ## The two searches -/

/-- Once a match from the start is found, both searches are the same and keep such a match. -/
theorem walkFrom_found (p : Program) (rest : Text) :
    ∀ (position : Nat) (front : Front) (found : Span), front.Began (· = 0) → found.start = 0 →
      ∃ s, p.walkFrom true position front (some found) rest = some s ∧
        p.walkFrom false position front (some found) rest = some s ∧ s.start = 0 := by
  induction rest with
  | nil =>
      intro position front found hbegan hfound
      obtain ⟨s, hs, hzero⟩ := better_some position (p.accepted_began hbegan) hfound
      exact ⟨s, hs, hs, hzero⟩
  | cons c rest ih =>
      intro position front found hbegan hfound
      cases hempty : front.threads.isEmpty with
      | true =>
          refine ⟨found, ?_, ?_, hfound⟩
          · simp [walkFrom_cons, hempty]
          · simp [walkFrom_cons, hempty]
      | false =>
          obtain ⟨hnext, haccepted⟩ := p.lead_began hbegan c rest.head?
          obtain ⟨s, hs, hzero⟩ := better_some position haccepted hfound
          rw [walkFrom_cons_of_threads true position hempty,
            walkFrom_cons_of_threads false position hempty, hs, entering_some, entering_some]
          exact ih (position + c.utf8Size) _ s hnext hzero

/-- What does not start at 0 does not lead to a match that does. -/
theorem walkFrom_later (p : Program) (rest : Text) :
    ∀ (position : Nat) (front : Front) (best : Option Span), front.Began (0 < ·) →
      (∀ s ∈ best, 0 < s.start) → ∀ s ∈ p.walkFrom false position front best rest, 0 < s.start := by
  induction rest with
  | nil =>
      intro position front best hbegan hbest
      exact better_mem (p.accepted_began hbegan) hbest
  | cons c rest ih =>
      intro position front best hbegan hbest
      obtain ⟨hnext, hfound⟩ := p.lead_began hbegan c rest.head?
      have hpos : 0 < position + c.utf8Size := Nat.add_pos_right position c.utf8Size_pos
      rw [walkFrom_cons]
      split
      · exact hbest
      · exact ih _ _ _ ((entering_later false hpos _ _ rest).began hnext)
          (better_mem hfound hbest)

/-- A match that starts later is not kept. -/
theorem filter_later {best : Option Span} (h : ∀ s ∈ best, 0 < s.start) :
    best.filter (·.start == 0) = none := by
  cases best with
  | none => rfl
  | some s =>
      have := h s rfl
      simp [Nat.ne_of_gt this]

/-- Until a match from the start is found, the threads of the anchored search stand in front of
    the others, which lead to nothing that starts at 0. -/
theorem walkFrom_filter (p : Program) (rest : Text) :
    ∀ (position : Nat) (front longer : Front) (best : Option Span), front.Began (· = 0) →
      front.Extends longer (0 < ·) → (∀ s ∈ best, 0 < s.start) →
        p.walkFrom true position front none rest =
          (p.walkFrom false position longer best rest).filter (·.start == 0) := by
  induction rest with
  | nil =>
      intro position front longer best hbegan hlonger hbest
      obtain ⟨added, heq, hadded⟩ := hlonger
      rw [walkFrom, walkFrom, heq, accepted_append]
      cases hfront : p.accepted front.threads.toList with
      | some start =>
          obtain rfl : start = 0 := p.accepted_began hbegan start hfront
          rfl
      | none =>
          rw [Option.none_or, filter_later (better_mem (p.accepted_mem hadded) hbest)]
          rfl
  | cons c rest ih =>
      intro position front longer best hbegan hlonger hbest
      cases hempty : front.threads.isEmpty with
      | true =>
          -- no thread from the start is left, and the other search has only later ones
          have hlater := hlonger.began (Front.began_of_isEmpty hempty)
          rw [filter_later (p.walkFrom_later (c :: rest) position longer best hlater hbest)]
          simp [walkFrom_cons, hempty]
      | false =>
          have hpos : 0 < position + c.utf8Size := Nat.add_pos_right position c.utf8Size_pos
          obtain ⟨hnext, hfound⟩ := p.lead_began hbegan c rest.head?
          obtain ⟨hsame, hmore⟩ := p.lead_extends hlonger c rest.head?
          rw [walkFrom_cons_of_threads true position hempty,
            walkFrom_cons_of_threads false position (hlonger.isEmpty_eq_false hempty)]
          cases hled : (p.lead c rest.head? front).2 with
          | some start =>
              -- both searches have found the match, and go on alike
              obtain rfl : start = 0 := hfound start hled
              obtain ⟨s, hs, hs', hzero⟩ := p.walkFrom_found rest (position + c.utf8Size)
                (p.lead c rest.head? front).1 ⟨0, position⟩ hnext rfl
              rw [hsame 0 hled, hled]
              simp only [better, entering_some, hs, hs']
              simp [Option.filter, hzero]
          | none =>
              obtain ⟨hextends, hlater⟩ := hmore hled
              rw [entering_anchored hpos]
              exact ih _ _ _ _ hnext (hextends.trans (entering_later false hpos _ _ rest))
                (better_mem hlater hbest)

/-- An anchored search finds what a search that seeks finds, if that starts at 0. -/
theorem search_anchored (p : Program) (haystack : Text) :
    p.search true haystack = (p.search false haystack).filter (·.start == 0) := by
  have hstart : p.entering true none 0 p.noThreads none haystack =
      p.entering false none 0 p.noThreads none haystack := rfl
  have hbegan : (p.entering false none 0 p.noThreads none haystack).Began (· = 0) :=
    (entering_extends false 0 _ none haystack).began (Front.began_of_isEmpty rfl)
  rw [search, search, walk_eq, walk_eq, hstart]
  exact p.walkFrom_filter haystack 0 _ _ none hbegan (.refl _ _) (fun _ hnone => nomatch hnone)

end Program

end Regex

/-! ## The two kinds of matchers -/

/-- A pattern that compiles can be prepared, and any other fails with the same error. -/
theorem PreparedRegex.compile_eq (pattern : Text) :
    PreparedRegex.compile pattern = (Regex.compile pattern).map fun r => ⟨r, r⟩ := by
  rw [PreparedRegex.compile, PreparedRegex.compileBoth]
  cases Regex.compile pattern <;> rfl

/-- Two compilers accept the same patterns. -/
def AcceptSame {ε δ ρ σ : Type} (compile : Text → Except ε ρ)
    (compileAnchored : Text → Except δ σ) : Prop :=
  ∀ pattern, (∃ r, compile pattern = .ok r) ↔ ∃ a, compileAnchored pattern = .ok a

namespace PreparedRegex

variable {ε δ ρ σ : Type} {noAnchored : δ → ε} {compile : Text → Except ε ρ}
  {compileAnchored : Text → Except δ σ} {pattern : Text}

/-- What was compiled twice, both compilers have compiled. -/
theorem compileBoth_eq_ok_iff {q : ρ × σ} :
    compileBoth noAnchored compile compileAnchored pattern = .ok q ↔
      compile pattern = .ok q.1 ∧ compileAnchored pattern = .ok q.2 := by
  rw [compileBoth]
  obtain ⟨r, a⟩ := q
  cases compile pattern with
  | error e => exact ⟨nofun, fun h => nomatch h.1⟩
  | ok r' =>
      cases compileAnchored pattern with
      | error e => exact ⟨nofun, fun h => nomatch h.2⟩
      | ok a' =>
          constructor
          · intro h
            obtain ⟨rfl, rfl⟩ := Prod.mk.inj (Except.ok.inj h)
            exact ⟨rfl, rfl⟩
          · rintro ⟨h, h'⟩
            obtain rfl := Except.ok.inj h
            obtain rfl := Except.ok.inj h'
            rfl

/-- If both compilers accept the same patterns, the second one refuses nothing that the first one
    accepts. -/
theorem exists_compileBoth_iff (h : AcceptSame compile compileAnchored) :
    (∃ q, compileBoth noAnchored compile compileAnchored pattern = .ok q) ↔
      ∃ r, compile pattern = .ok r := by
  simp only [compileBoth_eq_ok_iff]
  constructor
  · rintro ⟨q, hr, -⟩
    exact ⟨q.1, hr⟩
  · rintro ⟨r, hr⟩
    obtain ⟨a, ha⟩ := (h pattern).mp ⟨r, hr⟩
    exact ⟨(r, a), hr, ha⟩

end PreparedRegex

namespace Matcher

/-- A matcher that always seeks, and when anchored keeps only what starts at 0: what `ofRegex`
    makes of a search. -/
def keepingStart (find : Text → Option Span) : Matcher where
  find haystack anchored :=
    match find haystack with
    | some found => if anchored && found.start != 0 then none else some found
    | none => none

/-- A matcher with a search of its own for the start of a haystack: what `ofPrepared` makes of two
    searches. -/
def choosing (find findAtStart : Text → Option Span) : Matcher where
  find haystack anchored := if anchored then findAtStart haystack else find haystack

theorem ofRegex_eq (r : Regex) : ofRegex r = keepingStart r.find := rfl

/-- A prepared regex has one search for haystacks and another one for their starts. -/
theorem ofPrepared_eq (q : PreparedRegex) :
    ofPrepared q = choosing q.seeking.find q.anchored.findAtStart := rfl

variable {find findAtStart : Text → Option Span}

/-- The search of a matcher that keeps only what starts at 0, anchored or not. -/
theorem find_keepingStart (haystack : Text) (anchored : Bool) :
    (keepingStart find).find haystack anchored =
      if anchored then (find haystack).filter (·.start == 0) else find haystack := by
  simp only [keepingStart]
  cases find haystack with
  | none => cases anchored <;> rfl
  | some found =>
      cases anchored with
      | false => simp
      | true => by_cases hzero : found.start = 0 <;> simp [Option.filter, hzero]

/-- Looking at the answer of a search that seeks is as good as a search at the start, if that one
    finds the same there. -/
theorem keepingStart_eq_choosing
    (h : ∀ haystack, findAtStart haystack = (find haystack).filter (·.start == 0)) :
    keepingStart find = choosing find findAtStart := by
  show (⟨(keepingStart find).find⟩ : Matcher) = ⟨(choosing find findAtStart).find⟩
  congr 1
  funext haystack anchored
  rw [find_keepingStart, ← h]
  rfl

/-- A regex is the prepared one that uses it for both searches. -/
theorem ofRegex_eq_ofPrepared (r : Regex) : ofRegex r = ofPrepared ⟨r, r⟩ := by
  rw [ofRegex_eq, ofPrepared_eq]
  exact keepingStart_eq_choosing r.program.search_anchored

/-- The matchers made of one pattern are the same. -/
theorem ofRegex_eq_of_compile {pattern : Text} {r : Regex} {q : PreparedRegex}
    (hr : Regex.compile pattern = .ok r) (hq : PreparedRegex.compile pattern = .ok q) :
    ofRegex r = ofPrepared q := by
  rw [PreparedRegex.compile_eq, hr] at hq
  obtain rfl := Except.ok.inj hq
  exact ofRegex_eq_ofPrepared r

end Matcher

/-- The answer of a search for the match with the least start, where a pattern prefers at most one
    of the matches that start at a position and `preferred` is the end of that one. -/
inductive Leftmost (preferred : Nat → Option Nat) : Option Span → Prop
  | found (s : Span) (hstop : preferred s.start = some s.stop)
      (hleast : ∀ n < s.start, preferred n = none) : Leftmost preferred (some s)
  | nothing (hnone : ∀ n, preferred n = none) : Leftmost preferred none

/-- Of what a leftmost search finds, the part that starts at 0 is the match preferred there. -/
theorem Leftmost.filter_eq {preferred : Nat → Option Nat} {answer : Option Span}
    (h : Leftmost preferred answer) :
    answer.filter (·.start == 0) = (preferred 0).map (Span.mk 0) := by
  cases h with
  | nothing hnone => simp [hnone 0]
  | found s hstop hleast =>
      obtain ⟨start, stop⟩ := s
      rcases Nat.eq_zero_or_pos start with rfl | hpos
      · rw [hstop]
        rfl
      · simp [hleast 0 hpos, Nat.ne_of_gt hpos]

/-- Searches for the preferred matches, of a haystack and of its start, make the same matcher. -/
theorem Matcher.keepingStart_eq_choosing_of_leftmost {preferred : Text → Nat → Option Nat}
    {find findAtStart : Text → Option Span}
    (hleftmost : ∀ haystack, Leftmost (preferred haystack) (find haystack))
    (hatStart : ∀ haystack, findAtStart haystack = (preferred haystack 0).map (Span.mk 0)) :
    keepingStart find = choosing find findAtStart := by
  refine keepingStart_eq_choosing ?_
  intro haystack
  rw [hatStart, (hleftmost haystack).filter_eq]

/-- Two commands that differ at most in which kind of matcher is made of a pattern. -/
inductive Command.Exchanged : Command → Command → Prop
  | same (command : Command) : Exchanged command command
  | prepared {pattern : Text} {r : Regex} {q : PreparedRegex} (mode : MatchMode)
      (hr : Regex.compile pattern = .ok r) (hq : PreparedRegex.compile pattern = .ok q) :
      Exchanged (.attempt mode (.ofRegex r)) (.attempt mode (.ofPrepared q))
  | seeking {pattern : Text} {r : Regex} {q : PreparedRegex} (mode : MatchMode)
      (hr : Regex.compile pattern = .ok r) (hq : PreparedRegex.compile pattern = .ok q) :
      Exchanged (.attempt mode (.ofPrepared q)) (.attempt mode (.ofRegex r))

theorem Command.Exchanged.eq {command command' : Command} (h : command.Exchanged command') :
    command = command' := by
  cases h with
  | same => rfl
  | prepared mode hr hq => rw [Matcher.ofRegex_eq_of_compile hr hq]
  | seeking mode hr hq => rw [Matcher.ofRegex_eq_of_compile hr hq]

/-- **The two kinds of regular expressions are interchangeable**: a pattern that compiles for one
    compiles for the other, they match every haystack alike, anchored or not, and commands that
    use the one or the other lead to the same answers and cursors.  The matchers are the same for
    any two searches that answer with the preferred match, one with the leftmost of a haystack and
    the other with the one at its start; and so all of this holds of any two compilers that accept
    the same patterns and search in these ways for the same matches. -/
theorem regex_kinds_interchangeable :
    (∀ pattern : Text, (∃ q, PreparedRegex.compile pattern = .ok q) ↔
      ∃ r, Regex.compile pattern = .ok r) ∧
    (∀ (pattern : Text) (r : Regex) (q : PreparedRegex), Regex.compile pattern = .ok r →
      PreparedRegex.compile pattern = .ok q → ∀ (haystack : Text) (anchored : Bool),
        (Matcher.ofRegex r).find haystack anchored =
          (Matcher.ofPrepared q).find haystack anchored) ∧
    (∀ (c : Cursor) (exchanges : List (Command × Command)),
      (∀ pair ∈ exchanges, pair.1.Exchanged pair.2) →
        c.performAll (exchanges.map Prod.fst) = c.performAll (exchanges.map Prod.snd)) ∧
    (∀ (preferred : Text → Nat → Option Nat) (find findAtStart : Text → Option Span),
      (∀ haystack, Leftmost (preferred haystack) (find haystack)) →
      (∀ haystack, findAtStart haystack = (preferred haystack 0).map (Span.mk 0)) →
        Matcher.keepingStart find = Matcher.choosing find findAtStart) ∧
    ∀ (ε δ ρ σ : Type) (noAnchored : δ → ε) (compile : Text → Except ε ρ)
      (compileAnchored : Text → Except δ σ) (find : ρ → Text → Option Span)
      (findAtStart : σ → Text → Option Span) (preferred : Text → Text → Nat → Option Nat),
      AcceptSame compile compileAnchored →
      (∀ pattern r, compile pattern = .ok r →
        ∀ haystack, Leftmost (preferred pattern haystack) (find r haystack)) →
      (∀ pattern a, compileAnchored pattern = .ok a →
        ∀ haystack, findAtStart a haystack = (preferred pattern haystack 0).map (Span.mk 0)) →
      ∀ pattern,
        ((∃ q, PreparedRegex.compileBoth noAnchored compile compileAnchored pattern = .ok q) ↔
          ∃ r, compile pattern = .ok r) ∧
        ∀ r q, compile pattern = .ok r →
          PreparedRegex.compileBoth noAnchored compile compileAnchored pattern = .ok q →
          Matcher.keepingStart (find r) = Matcher.choosing (find q.1) (findAtStart q.2) := by
  refine ⟨?_, ?_, ?_, ?_, ?_⟩
  · intro pattern
    rw [PreparedRegex.compile_eq]
    cases Regex.compile pattern with
    | error e => simp [Except.map]
    | ok r => simp [Except.map]
  · intro pattern r q hr hq haystack anchored
    rw [Matcher.ofRegex_eq_of_compile hr hq]
  · intro c exchanges hexchanged
    have hsame : exchanges.map Prod.fst = exchanges.map Prod.snd :=
      List.map_congr_left fun pair hmem => (hexchanged pair hmem).eq
    rw [hsame]
  · intro preferred find findAtStart hleftmost hatStart
    exact Matcher.keepingStart_eq_choosing_of_leftmost hleftmost hatStart
  · intro ε δ ρ σ noAnchored compile compileAnchored find findAtStart preferred hsame hleftmost
      hatStart pattern
    refine ⟨PreparedRegex.exists_compileBoth_iff hsame, fun r q hr hq => ?_⟩
    obtain ⟨hseeking, hanchored⟩ := PreparedRegex.compileBoth_eq_ok_iff.mp hq
    obtain rfl := Except.ok.inj (hr.symm.trans hseeking)
    exact Matcher.keepingStart_eq_choosing_of_leftmost (hleftmost pattern q.1 hseeking)
      (hatStart pattern q.2 hanchored)

/-- A pattern whose second branch matches sooner in a haystack, and prefers to match nothing; and
    searches for the end of a haystack, which is its start only where there is no character, on
    their own and as two compilers of `$` make them. -/
theorem regex_kinds_interchangeable_for_a_choice :
    (∃ r q, Regex.compile ['a', 'b', '|', 'x', '*', '?'] = .ok r ∧
      PreparedRegex.compile ['a', 'b', '|', 'x', '*', '?'] = .ok q ∧
      (∀ haystack anchored, (Matcher.ofRegex r).find haystack anchored =
        (Matcher.ofPrepared q).find haystack anchored) ∧
      (Cursor.ofText ['x', 'a', 'b'] Window.standard).performAll
          [.attempt .scan (.ofRegex r), .take 1, .attempt .scanUntil (.ofPrepared q)] =
        (Cursor.ofText ['x', 'a', 'b'] Window.standard).performAll
          [.attempt .scan (.ofPrepared q), .take 1, .attempt .scanUntil (.ofRegex r)]) ∧
    Matcher.keepingStart (fun haystack => some ⟨haystack.width, haystack.width⟩) =
      Matcher.choosing (fun haystack => some ⟨haystack.width, haystack.width⟩)
        (fun haystack => if haystack.width = 0 then some ⟨0, 0⟩ else none) ∧
    ∃ q : Unit × Nat,
      PreparedRegex.compileBoth (fun _ => "no anchored matcher")
        (fun pattern => if pattern = ['$'] then .ok () else .error "not supported")
        (fun pattern => if pattern = ['$'] then .ok 0 else .error ()) ['$'] = .ok q ∧
      Matcher.keepingStart (fun haystack => some ⟨haystack.width, haystack.width⟩) =
        Matcher.choosing (fun haystack => some ⟨haystack.width, haystack.width⟩)
          (fun haystack => if haystack.width = q.2 then some ⟨0, 0⟩ else none) := by
  obtain ⟨hboth, hfind, hperform, hsearches, hcompilers⟩ := regex_kinds_interchangeable
  -- the end of a haystack is the one position where `$` matches
  have hleftmost : ∀ haystack : Text, Leftmost (fun n => if haystack.width = n then some n else none)
      (some ⟨haystack.width, haystack.width⟩) := by
    intro haystack
    refine .found _ (if_pos rfl) ?_
    intro n hlt
    exact if_neg (Nat.ne_of_gt hlt)
  refine ⟨?_, ?_, ?_⟩
  · have hcompiles : (Regex.compile ['a', 'b', '|', 'x', '*', '?']).isOk = true := by
      decide +kernel
    cases hr : Regex.compile ['a', 'b', '|', 'x', '*', '?'] with
    | error e =>
        rw [hr] at hcompiles
        exact nomatch hcompiles
    | ok r =>
        obtain ⟨q, hq⟩ := (hboth _).mpr ⟨r, hr⟩
        refine ⟨r, q, rfl, hq, hfind _ r q hr hq, ?_⟩
        refine hperform _ [(.attempt .scan (.ofRegex r), .attempt .scan (.ofPrepared q)),
          (.take 1, .take 1),
          (.attempt .scanUntil (.ofPrepared q), .attempt .scanUntil (.ofRegex r))] ?_
        simp only [List.forall_mem_cons]
        exact ⟨.prepared _ hr hq, .same _, .seeking _ hr hq, by simp⟩
  · refine hsearches (fun haystack n => if haystack.width = n then some n else none) _ _ hleftmost ?_
    intro haystack
    by_cases hempty : haystack.width = 0 <;> simp [hempty]
  · obtain ⟨hsame, hmatchers⟩ := hcompilers String Unit Unit Nat (fun _ => "no anchored matcher")
      (fun pattern => if pattern = ['$'] then .ok () else .error "not supported")
      (fun pattern => if pattern = ['$'] then .ok 0 else .error ())
      (fun _ haystack => some ⟨haystack.width, haystack.width⟩)
      (fun n haystack => if haystack.width = n then some ⟨0, 0⟩ else none)
      (fun _ haystack n => if haystack.width = n then some n else none)
      (fun pattern => by by_cases hpattern : pattern = ['$'] <;> simp [hpattern])
      (fun _ _ _ haystack => hleftmost haystack)
      (fun pattern a ha haystack => by
        by_cases hpattern : pattern = ['$']
        · rw [if_pos hpattern] at ha
          obtain rfl := Except.ok.inj ha
          by_cases hempty : haystack.width = 0 <;> simp [hempty]
        · rw [if_neg hpattern] at ha
          exact nomatch ha)
      ['$']
    obtain ⟨q, hq⟩ := hsame.mpr ⟨(), rfl⟩
    exact ⟨q, hq, hmatchers () q rfl hq⟩

end TextCursor
