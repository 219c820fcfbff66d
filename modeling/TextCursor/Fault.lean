/-! # Faults and machine words

    Positions and lengths are counted in bytes and kept as natural numbers
    below `2 ^ 64`.  An operation that would leave that range, or that asks a
    text or a tape for something it does not hold, is a `Fault`.  Nothing in the
    library recovers from one: every operation runs in `Checked`, so that "it
    never faults" is a statement about its value. -/

namespace TextCursor

/-- What a text, a tape or a machine word does not allow. -/
inductive Fault where
  /-- A slice whose ends are not character boundaries of the text, in order. -/
  | slice
  /-- A sum that does not fit a machine word. -/
  | overflow
  /-- A difference below zero. -/
  | underflow
  /-- An index past the last element. -/
  | index
  /-- A remainder by zero. -/
  | modulus
  /-- An expectation of a checked session that does not hold. -/
  | broken (expectation : String)
deriving DecidableEq, Repr

/-- A computation that may meet a fault. -/
abbrev Checked := Except Fault

/-- The number of values of a machine word. -/
def wordLimit : Nat := Nat.pow 2 64

/-- The sum of two words, when it is a word again. -/
def wordSum? (a b : Nat) : Option Nat :=
  if a + b < wordLimit then some (a + b) else none

/-- The sum of two words, or the greatest word when there is none. -/
def saturatingSum (a b : Nat) : Nat :=
  min (a + b) (wordLimit - 1)

/-- The sum of two words; a fault when it is not a word. -/
def checkedSum (a b : Nat) : Checked Nat :=
  match wordSum? a b with
  | some n => .ok n
  | none => .error .overflow

/-- The difference of two words; a fault when the second is the greater. -/
def checkedDifference (a b : Nat) : Checked Nat :=
  if b ≤ a then .ok (a - b) else .error .underflow

/-- Passes when the condition holds, and is a fault otherwise. -/
def expect (condition : Bool) (expectation : String) : Checked Unit :=
  if condition then .ok () else .error (.broken expectation)

end TextCursor
