import TextCursor.CharSet.ByteForm
import TextCursor.Regex.Term

/-! # The size of a term

    A term may not be too large.  Its size is counted in bytes of an automaton
    that reads a haystack byte by byte: so many for each state, and more for
    each byte range and each way out of a fork. -/

namespace TextCursor.Regex.Term

/-- The greatest size of a term. -/
def sizeLimit : Nat := 10485760

/-- The bytes of a state. -/
def stateBytes : Nat := 32

/-- The bytes of one of several byte ranges on which a state goes on. -/
def rangeBytes : Nat := 8

/-- The bytes of a way out of a fork. -/
def wayBytes : Nat := 4

/-- The bytes of a fork with two ways. -/
def forkBytes : Nat := stateBytes + 2 * wayBytes

/-- The bytes of what surrounds each term: a loop that seeks, the limits of the match, and the
    state that accepts it. -/
def frameBytes : Nat := forkBytes + (2 * stateBytes + rangeBytes) + 3 * stateBytes

/-- The number of byte ranges that two sequences share at their beginning. -/
def sharedRanges : List (UInt8 × UInt8) → List (UInt8 × UInt8) → Nat
  | a :: as, b :: bs => if a == b then sharedRanges as bs + 1 else 0
  | _, _ => 0

/-- The bytes of a set.  An ASCII set is one state.  Any other one has a way for each of its byte
    forms and a state for each distinct beginning of one. -/
def setBytes (s : CharSet) : Nat :=
  if s.isAscii then 2 * stateBytes + rangeBytes * s.ranges.length
  else
    (s.byteForms.foldl
      (fun (n, previous) form =>
        (n + wayBytes + stateBytes * (form.length - sharedRanges previous form), form))
      (2 * stateBytes, [])).1

/-- The proper beginnings of a list. -/
def properBeginnings {α : Type} (xs : List α) : List (List α) :=
  (List.range xs.length).map xs.take

/-- The bytes of words as alternatives: they share the states of their common beginnings. -/
def wordsBytes (words : List (List UInt8)) : Nat :=
  (words.flatMap properBeginnings).eraseDups.foldl
    (fun n beginning =>
      let following := (words.filter beginning.isPrefixOf).filterMap (·[beginning.length]?)
      let ranges := following.eraseDups.length
      let state := if ranges = 1 then stateBytes else stateBytes + rangeBytes * ranges
      n + state + if words.contains beginning then forkBytes else 0)
    stateBytes

/-- The bytes of a repetition of a part with so many bytes. -/
def repetitionBytes (least : Nat) (most : Option Nat) (consumes : Bool) (part : Nat) : Nat :=
  match least, most with
  | 0, some 1 => forkBytes + part + stateBytes
  | 0, some most => 2 * stateBytes + most * (forkBytes + part)
  | 0, none => if consumes then forkBytes + part else part + 2 * forkBytes + stateBytes
  | least, none => least * part + forkBytes
  | least, some most =>
    if least = most then least * part
    else least * part + stateBytes + (most - least) * (forkBytes + part)

/-- The characters of a term that is a literal. -/
def literal? : Term → Option Text
  | .literal cs => some cs
  | _ => none

mutual

/-- The bytes of a term by itself. -/
def bytes : Term → Nat
  | .empty => stateBytes
  | .literal cs => stateBytes * cs.width
  | .oneOf set => setBytes set
  | .look _ => stateBytes
  | .repetition least most _ body =>
    repetitionBytes least most ((minWidth body).any (0 < ·)) (bytes body)
  | .capture _ body => bytes body + 2 * stateBytes
  | .concat parts => totalBytes parts
  | .choice branches =>
    match branches.mapM literal? with
    | some words => wordsBytes (words.map Text.bytes)
    | none => 2 * stateBytes + wayBytes * branches.length + totalBytes branches

/-- The bytes of several terms together. -/
def totalBytes : List Term → Nat
  | [] => 0
  | t :: ts => bytes t + totalBytes ts

end

/-- Whether a term is too large. -/
def tooLarge (t : Term) : Bool :=
  sizeLimit < frameBytes + t.bytes

end TextCursor.Regex.Term
