import TextCursor.Fault

/-! # Texts and byte positions

    A text is a list of characters; its positions are the byte offsets of its
    UTF-8 form.  A position is a boundary when it lies between two characters,
    before the first or after the last one.  Slices take boundaries only.

    `boundaryBelow` and `boundaryAbove` clamp any position into the text and
    walk from there to a boundary, down or up. -/

namespace TextCursor

/-- A text as the list of its characters. -/
abbrev Text := List Char

namespace Text

/-- The number of bytes of a text. -/
def width : Text → Nat
  | [] => 0
  | c :: cs => c.utf8Size + width cs

/-- The bytes of a text. -/
def bytes : Text → List UInt8
  | [] => []
  | c :: cs => String.utf8EncodeChar c ++ bytes cs

/-- The two parts of a text at a byte position, when that is a boundary. -/
def splitAt? : Text → Nat → Option (Text × Text)
  | cs, 0 => some ([], cs)
  | [], _ + 1 => none
  | c :: cs, n + 1 =>
    if c.utf8Size ≤ n + 1 then
      (splitAt? cs (n + 1 - c.utf8Size)).map fun (front, back) => (c :: front, back)
    else none

/-- Whether a byte position lies between two characters or at an end. -/
def isBoundary (t : Text) (n : Nat) : Bool :=
  (splitAt? t n).isSome

/-- The part of a text between two byte positions, when both are boundaries in order. -/
def slice? (t : Text) (start stop : Nat) : Option Text :=
  if start ≤ stop then
    match splitAt? t start with
    | some (_, back) => (splitAt? back (stop - start)).map Prod.fst
    | none => none
  else none

/-- The part of a text between two byte positions; a fault when there is none. -/
def slice (t : Text) (start stop : Nat) : Checked Text :=
  match slice? t start stop with
  | some part => .ok part
  | none => .error .slice

/-- The text before a byte position. -/
def before (t : Text) (n : Nat) : Checked Text :=
  match splitAt? t n with
  | some (front, _) => .ok front
  | none => .error .slice

/-- The text from a byte position on. -/
def after (t : Text) (n : Nat) : Checked Text :=
  match splitAt? t n with
  | some (_, back) => .ok back
  | none => .error .slice

/-- Walks down from a position to the first boundary met; a fault below zero. -/
def descend (t : Text) : Nat → Checked Nat
  | 0 => if isBoundary t 0 then .ok 0 else .error .underflow
  | n + 1 => if isBoundary t (n + 1) then .ok (n + 1) else descend t n

/-- Walks up from a position to the first boundary met; a fault past the end. -/
def ascend (t : Text) (n : Nat) : Checked Nat :=
  if isBoundary t n then .ok n
  else if n < width t then ascend t (n + 1)
  else .error .slice
termination_by width t - n

/-- The greatest boundary at or below a position clamped into the text. -/
def boundaryBelow (t : Text) (n : Nat) : Checked Nat :=
  descend t (min n (width t))

/-- The least boundary at or above a position clamped into the text. -/
def boundaryAbove (t : Text) (n : Nat) : Checked Nat :=
  ascend t (min n (width t))

/-- The decimal text of a number. -/
def ofNat (n : Nat) : Text :=
  (toString n).toList

/-- The text of a truth value. -/
def ofBool : Bool → Text
  | true => "true".toList
  | false => "false".toList

end Text

end TextCursor
