import TextCursor.CharSet

/-! # Byte forms of sets

    The UTF-8 forms of the characters of a set, as sequences of byte ranges.  A
    range of code points falls into blocks in which the bytes vary independently
    of each other; each block is one sequence. -/

namespace TextCursor.CharSet

/-- The parts of a range whose characters take one, two, three and four bytes. -/
def byWidth (r : Nat × Nat) : List (Nat × Nat) :=
  [(0, 0x7F), (0x80, 0x7FF), (0x800, 0xFFFF), (0x10000, greatest)].filterMap fun (low, high) =>
    if max low r.1 ≤ min high r.2 then some (max low r.1, min high r.2) else none

/-- The blocks of a range, where `unit` code points share all bytes but the last ones.  What
    comes before the first whole unit is a block, so is what comes after the last one, and
    between them units are taken together. -/
def blocks : Nat → Nat → Nat × Nat → List (Nat × Nat)
  | 0, _, r => [r]
  | levels + 1, unit, (low, high) =>
    if low / unit = high / unit then [(low, high)]
    else
      let first := (low + unit - 1) / unit * unit
      let last := (high + 1) / unit * unit
      let before := if low < first then [(low, first - 1)] else []
      let between := if first < last then blocks levels (64 * unit) (first, last - 1) else []
      let after := if last ≤ high then [(last, high)] else []
      before ++ between ++ after

/-- The bytes of a code point. -/
def codeBytes (n : Nat) : List UInt8 :=
  String.utf8EncodeChar (Char.ofNat n)

/-- The byte ranges of a block. -/
def byteRanges (block : Nat × Nat) : List (UInt8 × UInt8) :=
  (codeBytes block.1).zip (codeBytes block.2)

/-- The sequences of byte ranges of a set, in ascending order. -/
def byteForms (s : CharSet) : List (List (UInt8 × UInt8)) :=
  (s.ranges.flatMap byWidth).flatMap fun r =>
    (blocks ((Char.ofNat r.1).utf8Size - 1) 64 r).map byteRanges

end TextCursor.CharSet
