import TextCursor.Document.Decimal
import TextCursor.Text.Quoted

/-! # Documents

    Structured values as they arrive from outside: the shape from which options
    are read and into which they are written. -/

namespace TextCursor

/-- A structured value. -/
inductive Document where
  | null
  | boolean (b : Bool)
  /-- A whole number within 64 bits, signed or unsigned. -/
  | integer (n : Int)
  /-- Any other number. -/
  | real (d : Decimal)
  | text (t : Text)
  | sequence (items : List Document)
  | map (entries : List (Text × Document))
deriving Repr

namespace Document

/-- The number with a sign, digits and, if it was written with a fraction or an exponent, a power
    of ten.  Minus zero is no integer, nor is a number that leaves 64 bits. -/
def ofNumeral (negative : Bool) (digits : Nat) (exponent : Option Int) : Document :=
  match exponent with
  | some e => .real ⟨negative, digits, e⟩
  | none =>
    if negative then
      if 0 < digits ∧ digits ≤ Nat.pow 2 63 then .integer (-digits) else .real ⟨true, digits, 0⟩
    else if digits < wordLimit then .integer digits
    else .real ⟨false, digits, 0⟩

/-- The value of the last entry with a name. -/
def entry? (entries : List (Text × Document)) (name : Text) : Option Document :=
  entries.foldl (fun found (key, value) => if key = name then some value else found) none

/-- The text of a whole number. -/
def integerText : Int → Text
  | .ofNat n => Text.ofNat n
  | .negSucc n => '-' :: Text.ofNat (n + 1)

/-- A document as a message names it. -/
def describe : Document → Text
  | .null => "null".toList
  | .boolean b => "boolean `".toList ++ Text.ofBool b ++ ['`']
  | .integer n => "integer `".toList ++ integerText n ++ ['`']
  | .real d => "floating point `".toList ++ d.text ++ ['`']
  | .text t => "string ".toList ++ Text.Quoted.write t
  | .sequence _ => "sequence".toList
  | .map _ => "map".toList

end Document

end TextCursor
