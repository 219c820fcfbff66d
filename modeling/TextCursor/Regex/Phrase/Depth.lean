import TextCursor.Regex.Phrase

/-! # Nesting

    Every part with parts of its own adds one to the depth of what it holds.
    The first part beyond the limit, in the order of writing, is refused. -/

namespace TextCursor.Regex

mutual

/-- The extent of the first part of a class that is nested too deep. -/
def ClassPhrase.tooDeep? (depth : Nat) : ClassPhrase → Option Extent
  | .bracketed extent _ inner =>
    if nestingLimit ≤ depth then some extent else inner.tooDeep? (depth + 1)
  | .union extent items =>
    if nestingLimit ≤ depth then some extent else anyTooDeep? (depth + 1) items
  | .combined extent _ left right =>
    if nestingLimit ≤ depth then some extent
    else (left.tooDeep? (depth + 1)).or (right.tooDeep? (depth + 1))
  | _ => none

/-- The extent of the first part of several that is nested too deep. -/
def anyTooDeep? (depth : Nat) : List ClassPhrase → Option Extent
  | [] => none
  | item :: items => (item.tooDeep? depth).or (anyTooDeep? depth items)

end

mutual

/-- The extent of the first part of a phrase that is nested too deep. -/
def Phrase.tooDeep? (depth : Nat) : Phrase → Option Extent
  | .bracketed extent _ inner =>
    if nestingLimit ≤ depth then some extent else inner.tooDeep? (depth + 1)
  | .repetition extent _ _ _ body =>
    if nestingLimit ≤ depth then some extent else body.tooDeep? (depth + 1)
  | .capture extent _ body =>
    if nestingLimit ≤ depth then some extent else body.tooDeep? (depth + 1)
  | .group extent _ body =>
    if nestingLimit ≤ depth then some extent else body.tooDeep? (depth + 1)
  | .alternation extent branches =>
    if nestingLimit ≤ depth then some extent else firstTooDeep? (depth + 1) branches
  | .concat extent parts =>
    if nestingLimit ≤ depth then some extent else firstTooDeep? (depth + 1) parts
  | _ => none

/-- The extent of the first part of several phrases that is nested too deep. -/
def firstTooDeep? (depth : Nat) : List Phrase → Option Extent
  | [] => none
  | part :: parts => (part.tooDeep? depth).or (firstTooDeep? depth parts)

end

end TextCursor.Regex
