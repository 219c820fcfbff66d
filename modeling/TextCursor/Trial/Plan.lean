import TextCursor.Trial.Bytes

/-! # Plans

    A text and a list of actions of a cursor over it, as bytes decide. -/

namespace TextCursor.Trial

/-- What an action looks for. -/
inductive Sought where
  | literal (t : Text)
  | char (c : Char)
  /-- One of the expressions of the trial, by number. -/
  | regex (index : Nat)
deriving DecidableEq, Repr

/-- An action of a cursor. -/
inductive Action where
  | scan (sought : Sought)
  | scanUntil (sought : Sought)
  | check (sought : Sought)
  | checkUntil (sought : Sought)
  | skip (sought : Sought)
  | skipUntil (sought : Sought)
  | peek (length : Nat)
  | take (length : Nat)
  | moveTo (position : Nat)
  | charFrom (index : Nat)
  | reset
  | terminate
deriving DecidableEq, Repr

/-- A text and the actions over it. -/
structure Plan where
  text : Text
  actions : List Action
deriving DecidableEq, Repr

/-- Draws what to look for. -/
def Sought.draw : Draw Sought := do
  match ← Draw.variant 3 with
  | 0 => return .literal (← Draw.text)
  | 1 => return .char (← Draw.char)
  | _ => return .regex (← Draw.number 1)

/-- Draws an action. -/
def Action.draw : Draw Action := do
  match ← Draw.variant 12 with
  | 0 => return .scan (← Sought.draw)
  | 1 => return .scanUntil (← Sought.draw)
  | 2 => return .check (← Sought.draw)
  | 3 => return .checkUntil (← Sought.draw)
  | 4 => return .skip (← Sought.draw)
  | 5 => return .skipUntil (← Sought.draw)
  | 6 => return .peek (← Draw.number 1)
  | 7 => return .take (← Draw.number 1)
  | 8 => return .moveTo (← Draw.number 8)
  | 9 => return .charFrom (← Draw.number 8)
  | 10 => return .reset
  | _ => return .terminate

/-- Draws actions, at most so many; an even byte ends them. -/
def Action.drawList : Nat → Draw (List Action)
  | 0 => return []
  | n + 1 => do
    if (← Draw.number 1) % 2 = 0 then return []
    else
      let action ← Action.draw
      return action :: (← Action.drawList n)

/-- Draws a plan.  Each action takes at least one byte, so there are no more of them than bytes. -/
def Plan.draw : Draw Plan := do
  let text ← Draw.text
  return ⟨text, ← Action.drawList (← get).length⟩

/-- The plan that bytes decide. -/
def Plan.ofBytes (bytes : Bytes) : Plan :=
  (Plan.draw.run bytes).1

end TextCursor.Trial
