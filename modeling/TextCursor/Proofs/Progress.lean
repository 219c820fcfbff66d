import TextCursor.Proofs.Fates

/-! # Only loops keep a run going

    The offset of a run goes back with every return to a `[`, so it measures
    nothing.  But a return is reported, and it is all that goes back: each round
    takes a character and stands behind it, or it returns to a `[` before it and
    has reported so (`Round.leads`).  While the run skips it never returns.

    Hence the characters taken are bounded by the returns: between two of them no
    character is taken twice.  `Run.Accounts` is that bound along a run, with two
    counts of the last character: as long as a run goes on, it has returned from
    there each time it was taken.  A run that ends well takes it once more, and
    this time goes on behind it. -/

namespace TextCursor

/-- Whether an event reports a return to a `[`. -/
def MachineEvent.isRewind : MachineEvent → Bool
  | .loopRewind _ => true
  | _ => false

namespace Run

variable {r r' start : Run} {o : Outcome} {program front back : Text} {d : Char} {rounds : Nat}

/-! ## What a run has taken, and from where it has returned -/

/-- How often a run has returned to a `[`, as it reports. -/
def rewinds (r : Run) : Nat :=
  r.log.countP MachineEvent.isRewind

/-- The offset of the character that the next round takes, if there is one. -/
def takes? (r : Run) : Option Nat :=
  match r.cursor.take 1 with
  | .ok (_ :: _, _) => some r.cursor.offset
  | _ => none

/-- The offset from which the next round returns to a `[`, if it does. -/
def returns? (r : Run) : Option Nat :=
  match r.round with
  | .ok o => if r.rewinds < o.run.rewinds then some r.cursor.offset else none
  | .error _ => none

/-- What is seen of the states from which a run makes so many rounds, in order. -/
def along (start : Run) (look : Run → Option Nat) (rounds : Nat) : List Nat :=
  (List.range rounds).filterMap fun k =>
    match start.runFor k with
    | .ok (.running r) => look r
    | _ => none

/-- The offsets of the characters that are taken in so many rounds. -/
def taken (start : Run) (rounds : Nat) : List Nat :=
  start.along takes? rounds

/-- The offsets from which so many rounds have returned to a `[`. -/
def returned (start : Run) (rounds : Nat) : List Nat :=
  start.along returns? rounds

/-- One round more sees one state more. -/
theorem along_running (h : start.runFor rounds = .ok (.running r)) (look : Run → Option Nat) :
    start.along look (rounds + 1) = start.along look rounds ++ (look r).toList := by
  rw [along, List.range_succ, List.filterMap_append, List.filterMap_cons, h]
  cases hlook : look r <;> simp [along, hlook]

/-- A run that is over is not seen any more. -/
theorem along_finished {result : Except MachineError Unit}
    (h : start.runFor rounds = .ok (.finished result r)) (look : Run → Option Nat) :
    start.along look (rounds + 1) = start.along look rounds := by
  rw [along, List.range_succ, List.filterMap_append, List.filterMap_cons, h]
  simp [along]

/-- What has been read and what is ahead make up the program. -/
theorem Ready.length_eq (h : r.Ready program front back) :
    program.length = front.length + back.length := by
  rw [h.text_eq, List.length_append]

/-- The next round takes the character at the cursor, if there is one. -/
theorem Ready.takes?_eq (h : r.Ready program front back) :
    r.takes? = back.head?.map fun _ => front.width := by
  cases back with
  | nil => rw [takes?, h.between.take_end h.cursor_fits, List.head?_nil, Option.map_none]
  | cons d back =>
      rw [takes?, h.between.take_char h.cursor_fits, List.head?_cons, Option.map_some,
        h.between.offset_eq]

/-- A round that reports no return returns from nowhere. -/
theorem returns?_eq_none (hround : r.round = .ok o) (h : o.run.rewinds = r.rewinds) :
    r.returns? = none := by
  rw [returns?, hround]
  exact if_neg (by omega)

theorem returns?_eq_some (hround : r.round = .ok o) (h : o.run.rewinds = r.rewinds + 1) :
    r.returns? = some r.cursor.offset := by
  rw [returns?, hround]
  exact if_pos (by omega)

/-! ## One round -/

/-- A report of anything but a return counts as none. -/
theorem rewinds_of_push {event : MachineEvent} (h : r'.log = r.log.push event)
    (hevent : event.isRewind = false) : r'.rewinds = r.rewinds := by
  rw [rewinds, h, Array.countP_push, hevent]
  rfl

theorem rewinds_of_return {offset : Nat} (h : r'.log = r.log.push (.loopRewind offset)) :
    r'.rewinds = r.rewinds + 1 := by
  rw [rewinds, h, Array.countP_push]
  rfl

/-- The end of a program is no return. -/
theorem rewinds_settle (r : Run) : r.settle.run.rewinds = r.rewinds := by
  rw [settle]
  split
  · show r.ended.rewinds = r.rewinds
    cases hloops : r.machine.loops.isEmpty with
    | true =>
        have hlog : r.ended.log = r.log := by rw [log_ended, hloops]; rfl
        rw [rewinds, rewinds, hlog]
    | false =>
        have hlog : r.ended.log = r.log.push (.endedInside r.machine.loops.length) := by
          rw [log_ended, hloops]
          rfl
        exact rewinds_of_push hlog rfl
  · rfl

/-- Where a round leads that takes a character: on behind it, or back to a `[`. -/
inductive Leads (program front : Text) (d : Char) (back : Text) (r : Run) : Outcome → Prop
  /-- The run stands behind the character.  It goes on only if there is more, and ends well only if
      there is not. -/
  | on {o : Outcome} (h : o.run.Ready program (front ++ [d]) back)
      (hrewinds : o.run.rewinds = r.rewinds) (hmore : ∀ r', o = .running r' → back ≠ [])
      (hover : ∀ r', o = .finished (.ok ()) r' → back = []) : Leads program front d back r o
  /-- The run stands at a `[` that it has read before, and does not skip. -/
  | back {before body : Text} {r' : Run} (hskip : r.machine.isSkipping = false)
      (hfront : front = before ++ '[' :: body)
      (hlog : r'.log = r.log.push (.loopRewind before.width))
      (h : r'.Ready program before ('[' :: (body ++ d :: back))) :
      Leads program front d back r (.running r')

/-- To settle behind a character leads on. -/
theorem Ready.leads_settle (h : r'.Ready program (front ++ [d]) back)
    (hrewinds : r'.rewinds = r.rewinds) : Leads program front d back r r'.settle := by
  refine .on h.settle_run (by rw [rewinds_settle, hrewinds]) ?_ ?_
  · rintro s hs rfl
    exact nomatch (settle_end h.between).symm.trans hs
  · intro s hs
    cases hback : back with
    | nil => rfl
    | cons d' back' =>
        subst hback
        exact nomatch (settle_running h.between).symm.trans hs

/-- A failure behind a character leads on, too. -/
theorem Ready.leads_failed {error : MachineError} (h : r'.Ready program (front ++ [d]) back)
    (hrewinds : r'.rewinds = r.rewinds) :
    Leads program front d back r (.finished (.error error) r') :=
  .on h hrewinds (by simp) (by simp)

/-- Each round that takes a character leads on or back. -/
theorem Round.leads (h : Round program front d back r o) : Leads program front d back r o := by
  cases h with
  | opened hd hready => exact hready.leads_settle (rewinds_of_push rfl rfl)
  | stray hd hnil hready => exact hready.leads_failed (rewinds_of_push rfl rfl)
  | closed hd hloops hskip hready => exact hready.leads_settle rfl
  | rewound hd hloops hskip hfront hbody hready =>
      refine .back ?_ hfront rfl hready
      rw [Machine.isSkipping, hloops]
      exact hskip
  | skipped hopen hclose hskip hready => exact hready.leads_settle rfl
  | acted hopen hclose hskip hact hready => exact hready.leads_settle rfl
  | failed hopen hclose hskip hact hready => exact hready.leads_failed rfl

/-- A round that takes a character brings the cursor behind it.  There the run stands afterwards, or
    it has returned to a `[` before that character. -/
def MovesOn (r : Run) : Prop :=
  ∃ d cursor o, r.cursor.take 1 = .ok ([d], cursor) ∧ r.cursor.offset < cursor.offset ∧
    r.round = .ok o ∧
    (o.run.rewinds = r.rewinds ∧ o.run.cursor.offset = cursor.offset ∨
      ∃ opening < r.cursor.offset, o.run.log = r.log.push (.loopRewind opening) ∧
        o.run.cursor.offset = opening)

/-- Every character that is taken moves the run on, or back to a `[`. -/
theorem Ready.movesOn (h : r.Ready program front (d :: back)) : r.MovesOn := by
  obtain ⟨o, hround, hcase⟩ := Run.round_ok h
  refine ⟨d, _, o, h.between.take_char h.cursor_fits, ?_, hround, ?_⟩
  · have hpos := d.utf8Size_pos
    show r.cursor.offset < r.cursor.offset + d.utf8Size
    omega
  · cases hcase.leads with
    | on hready hrewinds hmore hover =>
        refine .inl ⟨hrewinds, ?_⟩
        rw [hready.between.offset_eq, Text.width_append, h.between.offset_eq]
        rfl
    | @back before body r' hskip hfront hlog hready =>
        refine .inr ⟨before.width, ?_, hlog, hready.between.offset_eq⟩
        have hone : Char.utf8Size '[' = 1 := rfl
        rw [h.between.offset_eq, hfront, Text.width_append, Text.width_cons]
        omega

/-- A run goes on only if there is a character to take. -/
theorem Ready.movesOn_of_running (h : r.Ready program front back)
    (hround : r.round = .ok (.running r')) : r.MovesOn := by
  cases back with
  | nil =>
      rw [h.round_end, settle_end h.between] at hround
      exact nomatch Except.ok.inj hround
  | cons d back => exact h.movesOn

/-- A round takes no return back, and if it makes none, it brings the run further. -/
theorem MovesOn.advances (h : r.MovesOn) (hround : r.round = .ok (.running r')) :
    r.rewinds ≤ r'.rewinds ∧ (r'.rewinds = r.rewinds → r.cursor.offset < r'.cursor.offset) := by
  obtain ⟨d, cursor, o, -, hlt, hround', hleads⟩ := h
  obtain rfl := Except.ok.inj (hround.symm.trans hround')
  rcases hleads with ⟨hrewinds, hoffset⟩ | ⟨opening, -, hlog, -⟩
  · exact ⟨Nat.le_of_eq hrewinds.symm, fun _ => Nat.lt_of_lt_of_eq hlt hoffset.symm⟩
  · have hreturn : r'.rewinds = r.rewinds + 1 := rewinds_of_return hlog
    exact ⟨by omega, fun heq => by omega⟩

/-! ## Skipping -/

/-- A run that skips stops skipping, or ends, before it has taken more than what is ahead; until
    then it does not return. -/
theorem Ready.skipping_ends (back : Text) : ∀ {front : Text} {r : Run},
    r.Ready program front back → back ≠ [] → r.machine.isSkipping = true →
    ∃ more o, more ≤ back.length ∧ r.runFor more = .ok o ∧ o.run.rewinds = r.rewinds ∧
      o.Satisfies (fun r' => r'.machine.isSkipping = false) fun _ _ => True := by
  induction back with
  | nil => exact fun _ hne _ => absurd rfl hne
  | cons d back ih =>
      intro front r h _ hskipping
      obtain ⟨o, hround, hcase⟩ := Run.round_ok h
      have hone : r.runFor 1 = .ok o := runFor_next rfl hround
      have hle : 1 ≤ (d :: back).length := Nat.succ_le_succ (Nat.zero_le _)
      cases hcase.leads with
      | back hskip hfront hlog hready => exact nomatch hskip.symm.trans hskipping
      | on hready hrewinds hmore hover =>
          cases o with
          | finished result r' => exact ⟨1, _, hle, hone, hrewinds, trivial⟩
          | running r' =>
              cases hskip : r'.machine.isSkipping with
              | false => exact ⟨1, _, hle, hone, hrewinds, hskip⟩
              | true =>
                  obtain ⟨more, o, hmore', hrun, hrewinds', hends⟩ :=
                    ih hready (hmore r' rfl) hskip
                  refine ⟨more + 1, o, Nat.succ_le_succ hmore', ?_, hrewinds'.trans hrewinds, hends⟩
                  rw [runFor_succ hround]
                  exact hrun

/-! ## Along a run -/

/-- The accounts of a run that goes on after so many rounds. -/
structure Accounts (start : Run) (program : Text) (rounds : Nat) (front back : Text) (r : Run) :
    Prop extends r.Ready program front back where
  /-- There is more to take, unless there never was. -/
  more : program ≠ [] → back ≠ []
  /-- Each round has taken a character. -/
  each : (start.taken rounds).length = rounds
  /-- A return gives back what it has passed, which is no more than the program. -/
  bound : rounds ≤ r.rewinds * program.length + front.length
  /-- From the last character the run has returned each time. -/
  last : ∀ (init : Text) d, program = init ++ [d] →
    (start.taken rounds).count init.width = (start.returned rounds).count init.width

/-- The accounts of a run that is over. -/
structure Balance (start : Run) (program : Text) (rounds : Nat)
    (result : Except MachineError Unit) (r : Run) : Prop where
  bound : (start.taken rounds).length ≤ (r.rewinds + 1) * program.length
  /-- Once it has gone on behind the last character. -/
  last : result = .ok () → ∀ (init : Text) d, program = init ++ [d] →
    (start.taken rounds).count init.width = (start.returned rounds).count init.width + 1

/-- The accounts of a run, whether it goes on or is over. -/
def Accounted (start : Run) (program : Text) (rounds : Nat) : Outcome → Prop :=
  Outcome.Satisfies (fun r => ∃ front back, start.Accounts program rounds front back r)
    (start.Balance program rounds)

/-- The offset before a character is that of the last one exactly if nothing follows it. -/
theorem Ready.width_eq_last_iff (h : r.Ready program front (d :: back)) {init : Text} {last : Char}
    (hprogram : program = init ++ [last]) : front.width = init.width ↔ back = [] := by
  have hcut : init ++ [last] = front ++ d :: back := hprogram.symm.trans h.text_eq
  constructor
  · intro hwidth
    obtain ⟨-, hback⟩ := Text.cut_unique hcut hwidth.symm
    exact (List.cons.inj hback).2.symm
  · rintro rfl
    obtain ⟨rfl, -⟩ := List.append_inj' hcut rfl
    rfl

/-- A round that does not return adds nothing to the returns. -/
theorem returned_succ_of_rewinds_eq (hrun : start.runFor rounds = .ok (.running r))
    (hround : r.round = .ok o) (hrewinds : o.run.rewinds = r.rewinds) :
    start.returned (rounds + 1) = start.returned rounds := by
  rw [returned, along_running hrun, returns?_eq_none hround hrewinds]
  exact List.append_nil _

namespace Accounts

/-- A round adds the offset of the character that it takes. -/
theorem taken_succ (h : start.Accounts program rounds front (d :: back) r)
    (hrun : start.runFor rounds = .ok (.running r)) :
    start.taken (rounds + 1) = start.taken rounds ++ [front.width] := by
  rw [taken, along_running hrun, h.toReady.takes?_eq]
  rfl

/-- A round that returns adds the offset from which it does. -/
theorem returned_succ (h : start.Accounts program rounds front (d :: back) r)
    (hrun : start.runFor rounds = .ok (.running r)) (hround : r.round = .ok o)
    (hrewinds : o.run.rewinds = r.rewinds + 1) :
    start.returned (rounds + 1) = start.returned rounds ++ [front.width] := by
  rw [returned, along_running hrun, returns?_eq_some hround hrewinds, h.between.offset_eq]
  rfl

/-- The next character is within the bound. -/
theorem taken_next_le (h : start.Accounts program rounds front back r)
    (hrun : start.runFor rounds = .ok (.running r)) :
    (start.taken (rounds + 1)).length ≤ (r.rewinds + 1) * program.length := by
  have hbound := h.bound
  have hlength := h.toReady.length_eq
  rw [Nat.succ_mul]
  cases back with
  | nil =>
      rw [taken, along_running hrun, h.toReady.takes?_eq, List.length_append]
      show (start.taken rounds).length + 0 ≤ _
      rw [h.each]
      omega
  | cons d back =>
      rw [List.length_cons] at hlength
      rw [h.taken_succ hrun, List.length_append, h.each, List.length_singleton]
      omega

/-- A round on behind a character that is not the last one keeps the accounts. -/
theorem running_on (h : start.Accounts program rounds front (d :: back) r)
    (hrun : start.runFor rounds = .ok (.running r)) (hround : r.round = .ok (.running r'))
    (hready : r'.Ready program (front ++ [d]) back) (hrewinds : r'.rewinds = r.rewinds)
    (hmore : back ≠ []) : start.Accounts program (rounds + 1) (front ++ [d]) back r' where
  toReady := hready
  more := fun _ => hmore
  each := by
    rw [h.taken_succ hrun, List.length_append, h.each]
    rfl
  bound := by
    have hbound := h.bound
    rw [hrewinds, List.length_append, List.length_singleton]
    omega
  last := by
    intro init last hprogram
    have hother : front.width ≠ init.width := by
      rw [Ne, h.toReady.width_eq_last_iff hprogram]
      exact hmore
    rw [h.taken_succ hrun, returned_succ_of_rewinds_eq hrun hround hrewinds, List.count_append,
      List.count_singleton, if_neg (by simpa using hother), Nat.add_zero, h.last init last hprogram]

/-- A run that ends behind a character ends with its accounts balanced. -/
theorem finished_on (h : start.Accounts program rounds front (d :: back) r)
    (hrun : start.runFor rounds = .ok (.running r)) {result : Except MachineError Unit}
    (hround : r.round = .ok (.finished result r')) (hrewinds : r'.rewinds = r.rewinds)
    (hover : result = .ok () → back = []) :
    start.Balance program (rounds + 1) result r' where
  bound := by
    rw [hrewinds]
    exact h.taken_next_le hrun
  last := by
    intro hresult init last hprogram
    have hlast : front.width = init.width :=
      (h.toReady.width_eq_last_iff hprogram).mpr (hover hresult)
    rw [h.taken_succ hrun, returned_succ_of_rewinds_eq hrun hround hrewinds, List.count_append, hlast,
      List.count_singleton_self, h.last init last hprogram]

/-- A return keeps the accounts: it makes room for all that it has passed. -/
theorem running_back {before body : Text}
    (h : start.Accounts program rounds (before ++ '[' :: body) (d :: back) r)
    (hrun : start.runFor rounds = .ok (.running r)) (hround : r.round = .ok (.running r'))
    (hready : r'.Ready program before ('[' :: (body ++ d :: back)))
    (hlog : r'.log = r.log.push (.loopRewind before.width)) :
    start.Accounts program (rounds + 1) before ('[' :: (body ++ d :: back)) r' where
  toReady := hready
  more := fun _ => List.cons_ne_nil _ _
  each := by
    rw [h.taken_succ hrun, List.length_append, h.each]
    rfl
  bound := by
    have hbound := h.bound
    have hlength := h.toReady.length_eq
    rw [List.length_cons] at hlength
    rw [rewinds_of_return hlog, Nat.succ_mul]
    omega
  last := by
    intro init last hprogram
    rw [h.taken_succ hrun, h.returned_succ hrun hround (rewinds_of_return hlog),
      List.count_append, List.count_append, h.last init last hprogram]

/-- A run that goes on stands before the end, unless its program is empty. -/
theorem program_eq_nil (h : start.Accounts program rounds front [] r) : program = [] :=
  Decidable.byContradiction fun hne => h.more hne rfl

/-- A round keeps the accounts. -/
theorem round_ok (h : start.Accounts program rounds front back r)
    (hrun : start.runFor rounds = .ok (.running r)) :
    ∃ o, r.round = .ok o ∧ start.Accounted program (rounds + 1) o := by
  cases back with
  | nil =>
      refine ⟨_, h.toReady.round_end, ?_⟩
      have hrewinds := rewinds_settle r
      rw [settle_end h.between] at hrewinds ⊢
      refine ⟨hrewinds ▸ h.taken_next_le hrun, fun _ init d hprogram => ?_⟩
      exact absurd (hprogram.symm.trans h.program_eq_nil) (List.concat_ne_nil d init)
  | cons d back =>
      obtain ⟨o, hround, hcase⟩ := Run.round_ok h.toReady
      refine ⟨o, hround, ?_⟩
      cases hcase.leads with
      | on hready hrewinds hmore hover =>
          cases o with
          | running r' =>
              exact ⟨_, _, h.running_on hrun hround hready hrewinds (hmore r' rfl)⟩
          | finished result r' =>
              exact h.finished_on hrun hround hrewinds fun hresult => hover r' (by rw [hresult])
      | back hskip hfront hlog hready =>
          subst hfront
          exact ⟨_, _, h.running_back hrun hround hready hlog⟩

end Accounts

/-- Every run can be accounted for. -/
theorem runFor_accounted (hstart : start.Ready program [] program) (rounds : Nat) :
    ∃ o, start.runFor rounds = .ok o ∧ start.Accounted program rounds o := by
  induction rounds with
  | zero =>
      refine ⟨.running start, rfl, [], program, ?_⟩
      exact ⟨hstart, id, rfl, Nat.zero_le _, fun _ _ _ => rfl⟩
  | succ rounds ih =>
      obtain ⟨o, hrun, haccounted⟩ := ih
      cases o with
      | running r =>
          obtain ⟨front, back, h⟩ := haccounted
          obtain ⟨o, hround, hnext⟩ := h.round_ok hrun
          exact ⟨o, runFor_next hrun hround, hnext⟩
      | finished result r =>
          refine ⟨.finished result r, runFor_add hrun 1, ?_, ?_⟩
          · rw [taken, along_finished hrun]
            exact haccounted.bound
          · rw [taken, returned, along_finished hrun, along_finished hrun]
            exact haccounted.last

/-- The accounts are in order in every state of a run. -/
theorem exists_accounts (hstart : start.Ready program [] program)
    (hrun : start.runFor rounds = .ok (.running r)) :
    ∃ front back, start.Accounts program rounds front back r := by
  obtain ⟨o, hok, haccounted⟩ := runFor_accounted hstart rounds
  obtain rfl := Except.ok.inj (hrun.symm.trans hok)
  exact haccounted

/-- When a run is over its accounts are balanced. -/
theorem balance_of_finished {result : Except MachineError Unit}
    (hstart : start.Ready program [] program)
    (hrun : start.runFor rounds = .ok (.finished result r)) :
    start.Balance program rounds result r := by
  obtain ⟨o, hok, haccounted⟩ := runFor_accounted hstart rounds
  obtain rfl := Except.ok.inj (hrun.symm.trans hok)
  exact haccounted

/-- A run that goes on takes no return back, and as long as it makes none, each round brings it
    further. -/
theorem offset_le_of_rewinds_eq (hstart : start.Ready program [] program)
    (hrun : start.runFor rounds = .ok (.running r)) (more : Nat) :
    ∀ r', start.runFor (rounds + more) = .ok (.running r') → r.rewinds ≤ r'.rewinds ∧
      (r'.rewinds = r.rewinds → r.cursor.offset + more ≤ r'.cursor.offset) := by
  induction more with
  | zero =>
      intro r' hlater
      obtain rfl := Outcome.running.inj (Except.ok.inj (hrun.symm.trans hlater))
      exact ⟨Nat.le_refl _, fun _ => Nat.le_refl _⟩
  | succ more ih =>
      intro r' hlater
      obtain ⟨s, hbefore, hround⟩ := exists_of_runFor_succ hlater
      obtain ⟨front, back, h⟩ := exists_accounts hstart hbefore
      obtain ⟨hkept, hlt⟩ := (h.toReady.movesOn_of_running hround).advances hround
      obtain ⟨hle, hoffset⟩ := ih s hbefore
      refine ⟨Nat.le_trans hle hkept, fun heq => ?_⟩
      -- no return has been made up to the last round, nor in it
      have hfar := hoffset (by omega)
      have hnext := hlt (by omega)
      omega

/-- A run that can go on for ever by its loops only. -/
structure GoesOnByLoops (start : Run) (program : Text) : Prop where
  /-- At most, the whole program has been taken once, and once more for each return.  The character
      that the next round takes is already counted. -/
  taken_le : ∀ rounds, ∃ o, start.runFor rounds = .ok o ∧
    (start.taken (rounds + 1)).length ≤ (o.run.rewinds + 1) * program.length
  /-- Each character that is taken brings the cursor forward, and each return brings it back. -/
  moves_on : ∀ rounds r, start.runFor rounds = .ok (.running r) → program ≠ [] → r.MovesOn
  /-- Between two returns each round brings the cursor forward. -/
  advances : ∀ rounds more r r', start.runFor rounds = .ok (.running r) →
    start.runFor (rounds + more) = .ok (.running r') → r'.rewinds = r.rewinds →
      r.cursor.offset + more ≤ r'.cursor.offset
  /-- What is skipped is left behind, or the run ends, after no more rounds than the program has
      characters and without a return. -/
  skipping_ends : ∀ rounds r, start.runFor rounds = .ok (.running r) →
    r.machine.isSkipping = true → ∃ more o, more ≤ program.length ∧
      start.runFor (rounds + more) = .ok o ∧ o.run.rewinds = r.rewinds ∧
      o.Satisfies (fun r' => r'.machine.isSkipping = false) fun _ _ => True
  /-- With a limited number of returns the run ends. -/
  ends : ∀ limit, (∀ rounds r, start.runFor rounds = .ok (.running r) → r.rewinds ≤ limit) →
    ∃ result r, start.runFor ((limit + 1) * program.length + 1) = .ok (.finished result r)
  /-- A run that ends well has taken the last character once more than it has returned from there,
      and nothing if there is none. -/
  last_taken : ∀ rounds r, start.runFor rounds = .ok (.finished (.ok ()) r) →
    (program = [] → start.taken rounds = []) ∧
    ∀ (init : Text) d, program = init ++ [d] →
      (start.taken rounds).count init.width = (start.returned rounds).count init.width + 1

/-- What the accounts of a run come to. -/
theorem goesOnByLoops (hstart : start.Ready program [] program) : start.GoesOnByLoops program where
  taken_le := by
    intro rounds
    obtain ⟨o, hok, haccounted⟩ := runFor_accounted hstart rounds
    refine ⟨o, hok, ?_⟩
    cases o with
    | running r =>
        obtain ⟨front, back, h⟩ := haccounted
        exact h.taken_next_le hok
    | finished result r =>
        rw [taken, along_finished hok]
        exact haccounted.bound
  moves_on := by
    intro rounds r hrun hne
    obtain ⟨front, back, h⟩ := exists_accounts hstart hrun
    obtain ⟨d, back, rfl⟩ := List.exists_cons_of_ne_nil (h.more hne)
    exact h.toReady.movesOn
  advances := by
    intro rounds more r r' hrun hlater heq
    exact (offset_le_of_rewinds_eq hstart hrun more r' hlater).2 heq
  skipping_ends := by
    intro rounds r hrun hskipping
    obtain ⟨front, back, h⟩ := exists_accounts hstart hrun
    have hne : program ≠ [] := by
      rintro rfl
      -- no loop is open in the empty program
      obtain ⟨rfl, -⟩ := List.append_eq_nil_iff.mp h.text_eq.symm
      rw [Machine.isSkipping, h.toReady.loops_eq_nil rfl] at hskipping
      exact absurd hskipping Bool.false_ne_true
    obtain ⟨more, o, hmore, hend, hrewinds, hends⟩ :=
      h.toReady.skipping_ends back (h.more hne) hskipping
    refine ⟨more, o, ?_, ?_, hrewinds, hends⟩
    · have hlength := h.toReady.length_eq
      omega
    · rw [runFor_add hrun]
      exact hend
  ends := by
    intro limit hlimit
    obtain ⟨o, hok, haccounted⟩ := runFor_accounted hstart ((limit + 1) * program.length + 1)
    cases o with
    | finished result r => exact ⟨result, r, hok⟩
    | running r =>
        -- so many rounds would have taken more characters than the returns allow
        obtain ⟨front, back, h⟩ := haccounted
        have hbound := h.bound
        have hreturns : r.rewinds * program.length ≤ limit * program.length :=
          Nat.mul_le_mul_right _ (hlimit _ r hok)
        have hlength := h.toReady.length_eq
        rw [Nat.succ_mul] at hbound
        omega
  last_taken := by
    intro rounds r hrun
    have hbalance := balance_of_finished hstart hrun
    refine ⟨?_, hbalance.last rfl⟩
    rintro rfl
    exact List.eq_nil_of_length_eq_zero (Nat.le_zero.mp hbalance.bound)

end Run

namespace Machine

variable {m : Machine}

/-- **A run can go on for ever only by its loops**: it has taken at most as many characters as the
    program has, once for each return to a `[` and once more.  Between two returns the cursor goes
    forward with every character, and a return takes it back.  So what is skipped is left behind, a
    run that returns a limited number of times ends, and one that ends well has taken the last
    character once more than it has returned from there.  Scripts are finite, so the attempts to
    read and to write that are repeated come to an end as well. -/
theorem only_loops_go_on (fits : m.program.width < wordLimit) (htape : m.tape.Valid)
    (reader : Reader) (writer : Writer) :
    (m.start reader writer).GoesOnByLoops m.program :=
  Run.goesOnByLoops (Run.ready_start fits htape reader writer)

/-- A loop that is executed once and then skipped. -/
theorem only_loops_go_on_once_more :
    Text.width ['[', '-', 'é', ']'] < wordLimit ∧ Tape.Valid ⟨#[1], 0⟩ ∧
      ∃ start r : Run,
        start = Machine.start ⟨['[', '-', 'é', ']'], MachineSetup.standard, ⟨#[1], 0⟩, []⟩ ⟨[]⟩
          .accepting ∧
        start.runFor 8 = .ok (.finished (.ok ()) r) ∧ r.rewinds = 1 ∧
        start.taken 8 = [0, 1, 2, 4, 0, 1, 2, 4] ∧ start.returned 8 = [4] ∧
        (start.taken 8).count 4 = (start.returned 8).count 4 + 1 ∧
        ∃ more o, more ≤ 4 ∧ start.runFor (5 + more) = .ok o ∧
          o.Satisfies (fun r' => r'.machine.isSkipping = false) fun _ _ => True := by
  have fits : Text.width ['[', '-', 'é', ']'] < wordLimit := by decide
  have htape : Tape.Valid ⟨#[1], 0⟩ := ⟨by decide, by decide⟩
  let m : Machine := ⟨['[', '-', 'é', ']'], MachineSetup.standard, ⟨#[1], 0⟩, []⟩
  let log : Array MachineEvent := #[.loopStart 0 false, .loopRewind 0, .loopStart 0 true]
  have hrun : (m.start ⟨[]⟩ .accepting).runFor 8
      = .ok (.finished (.ok ()) ⟨{ m with tape := ⟨#[0], 0⟩ },
        ⟨m.program, 5, none, Window.standard⟩, ⟨[]⟩, ⟨[], none, #[], 1⟩, log⟩) := by
    decide +kernel
  have hskips : (m.start ⟨[]⟩ .accepting).runFor 5
      = .ok (.running ⟨{ m with tape := ⟨#[0], 0⟩, loops := [⟨0, true⟩] },
        ⟨m.program, 1, none, Window.standard⟩, ⟨[]⟩, .accepting, log⟩) := by
    decide +kernel
  have hloops := only_loops_go_on (m := m) fits htape ⟨[]⟩ .accepting
  obtain ⟨more, o, hmore, hend, -, hends⟩ := hloops.skipping_ends 5 _ hskips rfl
  refine ⟨fits, htape, _, _, rfl, hrun, rfl, by decide +kernel, by decide +kernel, ?_,
    more, o, hmore, hend, hends⟩
  exact (hloops.last_taken 8 _ hrun).2 ['[', '-', 'é'] ']' rfl

end Machine

end TextCursor
