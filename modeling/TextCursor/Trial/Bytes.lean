import TextCursor.Text

/-! # Values out of bytes

    A trial reads its values from the front of a list of bytes.  Bytes that are
    missing count as zero, so that reading never fails.  The length of a text is
    taken from the back of the list. -/

namespace TextCursor.Trial

/-- Bytes not consumed yet. -/
abbrev Bytes := List UInt8

/-- A value read, and the bytes left. -/
abbrev Draw (α : Type) := StateM Bytes α

namespace Draw

/-- The number that bytes write, the least significant one first. -/
def littleEndian : Bytes → Nat
  | [] => 0
  | b :: bs => b.toNat + 256 * littleEndian bs

/-- The number that bytes write, the most significant one first. -/
def bigEndian (bs : Bytes) : Nat :=
  littleEndian bs.reverse

/-- A number of so many bytes. -/
def number (width : Nat) : Draw Nat := do
  let bytes ← get
  set (bytes.drop width)
  return littleEndian (bytes.take width)

/-- Any character: a number modulo the count of code points, with the surrogates moved down to
    the beginning. -/
def char : Draw Char := do
  let n := (← number 4) % 0x110000
  let n := if 0xD800 ≤ n ∧ n ≤ 0xDFFF then n - 0xD800 else n
  return Char.ofNat n

/-- One of so many variants, by the leading bits of a number. -/
def variant (count : Nat) : Draw Nat := do
  return (← number 4) * count / Nat.pow 2 32

/-- How many bytes at the back of so many are set aside for a length. -/
def lengthWidth (count : Nat) : Nat :=
  if count ≤ 0x100 then 1
  else if count ≤ 0x10001 then 2
  else if count ≤ 0x100000003 then 4
  else 8

/-- A number up to a bound, out of as many of the leading bytes as the bound takes to write. -/
def upTo (bound : Nat) (bytes : Bytes) : Nat :=
  bigEndian (bytes.take (bound.log2 / 8 + 1)) % (bound + 1)

/-- A length of at most the bytes before it, taken from the back. -/
def length : Draw Nat := do
  let bytes ← get
  if bytes.length ≤ 1 then
    set ([] : Bytes)
    return 0
  else
    let kept := bytes.take (bytes.length - lengthWidth bytes.length)
    set kept
    return upTo kept.length (bytes.drop kept.length)

/-- Whether a byte continues a character. -/
def isTail (b : UInt8) : Bool :=
  0x80 ≤ b && b ≤ 0xBF

/-- The character of a leading byte and the bits of the bytes that continue it, if it is one and
    is written as short as can be. -/
def assemble (lead : Nat) (tails : Bytes) : Option Char :=
  let n := tails.foldl (fun n b => n * 64 + (b.toNat - 0x80)) lead
  if tails.all isTail ∧ n.isValidChar ∧ (Char.ofNat n).utf8Size = tails.length + 1 then
    some (Char.ofNat n)
  else none

/-- The first character of bytes, and the number of bytes that write it. -/
def firstChar? : Bytes → Option (Char × Nat)
  | [] => none
  | b :: bs =>
    let n := b.toNat
    if n < 0x80 then some (Char.ofNat n, 1)
    else if n < 0xC0 then none
    else if n < 0xE0 then
      if bs.length < 1 then none else (assemble (n - 0xC0) (bs.take 1)).map (·, 2)
    else if n < 0xF0 then
      if bs.length < 2 then none else (assemble (n - 0xE0) (bs.take 2)).map (·, 3)
    else if n < 0xF8 then
      if bs.length < 3 then none else (assemble (n - 0xF0) (bs.take 3)).map (·, 4)
    else none

/-- The longest text that bytes begin with, read in at most so many characters. -/
def leadingText : Nat → Bytes → Text
  | 0, _ => []
  | n + 1, bytes =>
    match firstChar? bytes with
    | some (c, width) => c :: leadingText n (bytes.drop width)
    | none => []

/-- A text: of as many bytes as the length says, the longest text they begin with. -/
def text : Draw Text := do
  let n ← length
  let bytes ← get
  let t := leadingText n (bytes.take n)
  set (bytes.drop t.width)
  return t

end Draw

end TextCursor.Trial
