import TextCursor.Text

/-! # Windows

    How a cursor shows itself: how many characters it prints, and how many of
    them stand before its offset.  Nothing else depends on it. -/

namespace TextCursor

/-- The window of characters that a cursor prints around its offset. -/
structure Window where
  /-- Number of characters shown. -/
  width : Nat := 5
  /-- Number of characters shown before the offset, when there are so many. -/
  lead : Nat := 2
deriving DecidableEq, Repr

namespace Window

/-- Five characters, beginning two before the offset. -/
def standard : Window := {}

/-- The window with the names of its fields. -/
def render (w : Window) : Text :=
  "ScannerOptions \x7b snippet_width: ".toList ++ Text.ofNat w.width ++
    ", snippet_lead: ".toList ++ Text.ofNat w.lead ++ " \x7d".toList

end Window

end TextCursor
