import TextCursor.Text

/-! # Quoted texts

    The quoted form of a text stands between double quotes.  Six characters
    have an escape of their own; a character that leaves no mark on paper, or
    that would join the one before it, is written by its code point.  All
    others stand for themselves. -/

namespace TextCursor.Text.Quoted

/-- The lowercase hexadecimal digits of a code point, without leading zeros. -/
def hexDigits (n : Nat) : Text :=
  Nat.toDigits 16 n

/-- The code points beyond ASCII that are written by number, as closed ranges: controls, blanks,
    format characters, combining marks and private use. -/
def hiddenRanges : List (Nat × Nat) :=
  [(0x80, 0xA0), (0xAD, 0xAD), (0x300, 0x36F), (0x483, 0x489), (0x1680, 0x1680),
   (0x2000, 0x200F), (0x2028, 0x202F), (0x205F, 0x2064), (0x2066, 0x206F),
   (0x20D0, 0x20F0), (0x3000, 0x3000), (0xE000, 0xF8FF), (0xFE00, 0xFE0F),
   (0xFEFF, 0xFEFF), (0xE0100, 0xE01EF), (0xF0000, 0x10FFFF)]

/-- Whether a character is written by its code point. -/
def isHidden (c : Char) : Bool :=
  c.toNat < 0x20 || c.toNat == 0x7F ||
    hiddenRanges.any fun (low, high) => low ≤ c.toNat && c.toNat ≤ high

/-- How one character is written between quotes. -/
def writeChar (c : Char) : Text :=
  match c with
  | '\x00' => ['\\', '0']
  | '\t' => ['\\', 't']
  | '\n' => ['\\', 'n']
  | '\r' => ['\\', 'r']
  | '"' => ['\\', '"']
  | '\\' => ['\\', '\\']
  | c => if isHidden c then ['\\', 'u', '\x7b'] ++ hexDigits c.toNat ++ ['\x7d'] else [c]

/-- A text between quotes. -/
def write (t : Text) : Text :=
  ['"'] ++ t.flatMap writeChar ++ ['"']

end TextCursor.Text.Quoted
