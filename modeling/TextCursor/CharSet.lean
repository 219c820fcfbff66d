/-! # Sets of characters

    A set of characters is a list of closed ranges of code points in ascending
    order, with a gap between neighbours and without surrogates.  All operations
    keep that form, so equal sets have equal ranges. -/

namespace TextCursor

/-- A set of characters as closed ranges of code points. -/
structure CharSet where
  ranges : List (Nat × Nat)
deriving DecidableEq, Repr

namespace CharSet

/-- The greatest code point. -/
def greatest : Nat := 0x10FFFF

/-- Whether ascending ranges cover a code point. -/
def covers (n : Nat) : List (Nat × Nat) → Bool
  | [] => false
  | (low, high) :: rest => if n < low then false else n ≤ high || covers n rest

/-- Whether a set holds a character. -/
def contains (s : CharSet) (c : Char) : Bool :=
  covers c.toNat s.ranges

/-- The empty set. -/
def empty : CharSet := ⟨[]⟩

/-- A range without the surrogates, which are no characters. -/
def withoutSurrogates (r : Nat × Nat) : List (Nat × Nat) :=
  [(r.1, min r.2 0xD7FF), (max r.1 0xE000, r.2)].filter fun r => r.1 ≤ r.2

/-- All characters. -/
def full : CharSet := ⟨withoutSurrogates (0, greatest)⟩

/-- Ascending ranges with one more, which swallows those that it touches. -/
def insertRange (r : Nat × Nat) : List (Nat × Nat) → List (Nat × Nat)
  | [] => [r]
  | s :: rest =>
    if r.2 + 1 < s.1 then r :: s :: rest
    else if s.2 + 1 < r.1 then s :: insertRange r rest
    else insertRange (min r.1 s.1, max r.2 s.2) rest

/-- The set that ranges in any order cover; a range that ends before it starts covers nothing. -/
def ofRanges (ranges : List (Nat × Nat)) : CharSet :=
  ⟨(ranges.flatMap withoutSurrogates).foldr insertRange []⟩

/-- The set of a closed range. -/
def range (low high : Nat) : CharSet :=
  ofRanges [(low, high)]

/-- The set of one character. -/
def single (c : Char) : CharSet :=
  range c.toNat c.toNat

/-- The set of the characters of a text. -/
def ofText (t : List Char) : CharSet :=
  ofRanges (t.map fun c => (c.toNat, c.toNat))

/-- Ascending ranges beginning with `r`, which swallows those that it touches. -/
def joinFrom (r : Nat × Nat) : List (Nat × Nat) → List (Nat × Nat)
  | [] => [r]
  | s :: rest =>
    if s.1 ≤ r.2 + 1 then joinFrom (r.1, max r.2 s.2) rest
    else r :: joinFrom s rest

/-- The ranges of two lists in the order of their lower ends, `r` and `rest` being the first list
    and `mergeRest` what merges its rest with another list. -/
def mergeWith (r : Nat × Nat) (rest : List (Nat × Nat))
    (mergeRest : List (Nat × Nat) → List (Nat × Nat)) : List (Nat × Nat) → List (Nat × Nat)
  | [] => r :: rest
  | s :: others =>
    if r.1 ≤ s.1 then r :: mergeRest (s :: others)
    else s :: mergeWith r rest mergeRest others

/-- The ranges of two ascending lists in the order of their lower ends. -/
def merge : List (Nat × Nat) → List (Nat × Nat) → List (Nat × Nat)
  | [], others => others
  | r :: rest, others => mergeWith r rest (merge rest) others

/-- What either of two sets holds. -/
def union (a b : CharSet) : CharSet :=
  match merge a.ranges b.ranges with
  | [] => empty
  | r :: rest => ⟨joinFrom r rest⟩

/-- What any of the sets holds. -/
def unions (sets : List CharSet) : CharSet :=
  sets.foldr union empty

/-- The gaps of ascending ranges, from a code point on. -/
def gapsFrom (next : Nat) : List (Nat × Nat) → List (Nat × Nat)
  | [] => if next ≤ greatest then [(next, greatest)] else []
  | (low, high) :: rest =>
    if next < low then (next, low - 1) :: gapsFrom (high + 1) rest
    else gapsFrom (high + 1) rest

/-- What a set does not hold. -/
def complement (s : CharSet) : CharSet :=
  ⟨(gapsFrom 0 s.ranges).flatMap withoutSurrogates⟩

/-- What both of two sets hold. -/
def inter (a b : CharSet) : CharSet :=
  (a.complement.union b.complement).complement

/-- What the first of two sets holds and the second does not. -/
def diff (a b : CharSet) : CharSet :=
  a.inter b.complement

/-- What exactly one of two sets holds. -/
def symmDiff (a b : CharSet) : CharSet :=
  (a.diff b).union (b.diff a)

/-- Whether a set holds ASCII characters only. -/
def isAscii (s : CharSet) : Bool :=
  s.ranges.all fun (_, high) => high ≤ 0x7F

/-- The character of a set that holds just one. -/
def only? (s : CharSet) : Option Char :=
  match s.ranges with
  | [(low, high)] => if low = high then some (Char.ofNat low) else none
  | _ => none

/-- The number of bytes of the shortest character of a set. -/
def minWidth? (s : CharSet) : Option Nat :=
  s.ranges.head?.map fun (low, _) => (Char.ofNat low).utf8Size

/-- The number of bytes of the longest character of a set. -/
def maxWidth? (s : CharSet) : Option Nat :=
  s.ranges.getLast?.map fun (_, high) => (Char.ofNat high).utf8Size

end CharSet

end TextCursor
