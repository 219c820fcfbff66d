import TextCursor.Regex.Phrase

/-! # Reading a pattern

    A reading step stands at a character position with the characters that
    follow.  Where blanks are ignored, comments from `#` to the end of the line
    are ignored too. -/

namespace TextCursor.Regex

/-- Whether a character is a blank. -/
def isBlank (c : Char) : Bool :=
  Unicode.blank.contains c

/-- Where the reading of a pattern stands. -/
structure ReadPoint where
  /-- The number of characters passed. -/
  position : Nat
  /-- The characters that follow. -/
  rest : Text
  /-- Whether blanks and comments are ignored here. -/
  ignoreBlanks : Bool
  /-- The number of capturing groups opened. -/
  captures : Nat
  /-- The names of capturing groups, with their extents. -/
  names : List (Text × Extent)
deriving DecidableEq, Repr

namespace ReadPoint

/-- The point before the first character of a pattern. -/
def ofPattern (pattern : Text) : ReadPoint :=
  ⟨0, pattern, false, 0, []⟩

/-- The point past the next `n` characters. -/
def pass (p : ReadPoint) (n : Nat) : ReadPoint :=
  { p with position := p.position + min n p.rest.length, rest := p.rest.drop n }

/-- The number of characters taken by blanks and comments. -/
def blanksAhead (inComment : Bool) : Text → Nat
  | [] => 0
  | c :: rest =>
    if inComment then 1 + blanksAhead (c ≠ '\n') rest
    else if isBlank c then 1 + blanksAhead false rest
    else if c = '#' then 1 + blanksAhead true rest
    else 0

/-- The point past blanks and comments, where they are ignored. -/
def passBlanks (p : ReadPoint) : ReadPoint :=
  if p.ignoreBlanks then p.pass (blanksAhead false p.rest) else p

/-- The first character that a range in a class could end with: the next one, or where blanks are
    ignored the next one that is no blank, behind at most one `#`. -/
def second (p : ReadPoint) : Option Char :=
  let following := p.rest.tail
  if p.ignoreBlanks then
    let visible := following.dropWhile isBlank
    let visible :=
      match visible with
      | '#' :: comment => comment.dropWhile isBlank
      | _ => visible
    match visible.head? with
    | some d => some d
    | none => following.head?
  else following.head?

end ReadPoint

/-- A reading step: it moves on and answers, or meets a mistake. -/
abbrev Reading := StateT ReadPoint (Except Mistake)

namespace Reading

/-- Stops at a mistake. -/
def fail {α : Type} (cause : Cause) (extent : Extent) : Reading α :=
  throw ⟨cause, extent, none⟩

/-- Stops at something that repeats what has occurred before. -/
def failAgain {α : Type} (cause : Cause) (extent earlier : Extent) : Reading α :=
  throw ⟨cause, extent, some earlier⟩

/-- The current position. -/
def position : Reading Nat :=
  return (← get).position

/-- The current character, if any is left. -/
def peek : Reading (Option Char) :=
  return (← get).rest.head?

/-- The character after the current one. -/
def peekNext : Reading (Option Char) :=
  return (← get).rest.tail.head?

/-- Whether no character is left. -/
def atEnd : Reading Bool :=
  return (← get).rest.isEmpty

/-- The empty extent at the current position. -/
def here : Reading Extent :=
  return Extent.point (← position)

/-- The extent of the current character. -/
def charExtent : Reading Extent :=
  return ⟨← position, (← position) + 1⟩

/-- The extent from a position to the current one. -/
def since (start : Nat) : Reading Extent :=
  return ⟨start, ← position⟩

/-- Passes a character; answers whether one is left. -/
def pass : Reading Bool := do
  modify (·.pass 1)
  return !(← atEnd)

/-- Passes blanks and comments, where they are ignored. -/
def passBlanks : Reading Unit :=
  modify ReadPoint.passBlanks

/-- Passes a character and the blanks after it; answers whether one is left. -/
def passWithBlanks : Reading Bool := do
  if ← pass then
    passBlanks
    return !(← atEnd)
  else return false

/-- Passes a given text, if it is next. -/
def accept (t : String) : Reading Bool := do
  if t.toList.isPrefixOf (← get).rest then
    modify (·.pass t.length)
    return true
  else return false

/-- Passes the first of several texts that is next, if any is. -/
def acceptAny : List String → Reading Bool
  | [] => return false
  | t :: ts => do
    if ← accept t then return true
    else acceptAny ts

/-- Collects at most so many characters that satisfy a condition, with blanks between them. -/
def collectAtMost (condition : Char → Bool) : Nat → Reading Text
  | 0 => return []
  | n + 1 => do
    match ← peek with
    | some c =>
      if condition c then
        let _ ← passWithBlanks
        return c :: (← collectAtMost condition n)
      else return []
    | none => return []

/-- Collects the characters that satisfy a condition, with blanks between them. -/
def collect (condition : Char → Bool) : Reading Text := do
  collectAtMost condition (← get).rest.length

end Reading

end TextCursor.Regex
