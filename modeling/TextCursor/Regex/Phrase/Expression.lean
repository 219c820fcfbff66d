import TextCursor.Regex.Phrase.Bracket

/-! # Expressions

    Alternatives of sequences of parts.  A group is read with the flags at its
    place, and what it does to the treatment of blanks ends with it. -/

namespace TextCursor.Regex

open Reading

/-- The flag of a letter. -/
def flag? : Char → Option Flag
  | 'i' => some .caseInsensitive
  | 'm' => some .multiLine
  | 's' => some .dotMatchesLineFeed
  | 'U' => some .swapGreed
  | 'u' => some .unicode
  | 'R' => some .crlf
  | 'x' => some .ignoreBlanks
  | _ => none

/-- The flags of a group as far as they are read. -/
structure FlagsRead where
  /-- The settings, the last one first. -/
  settings : FlagSettings
  /-- Where each flag stands. -/
  places : List (Flag × Extent)
  /-- Where the negation stands. -/
  negation : Option Extent
  /-- Whether the negation is the last item. -/
  dangling : Bool

/-- Reads flags up to a colon or a closing parenthesis. -/
def readFlagItems : Nat → FlagsRead → Reading FlagsRead
  | 0, read => return read
  | n + 1, read => do
    match ← peek with
    | none => fail .flagEnd (← here)
    | some c =>
      if c = ':' ∨ c = ')' then return read
      else
        let extent ← charExtent
        let read ←
          if c = '-' then
            match read.negation with
            | some earlier => failAgain .flagNegationRepeated extent earlier
            | none => pure { read with negation := some extent, dangling := true }
          else
            match flag? c with
            | none => fail .flagUnknown extent
            | some f =>
              match read.places.lookup f with
              | some earlier => failAgain .flagDuplicate extent earlier
              | none =>
                pure { read with
                  settings := (f, read.negation.isNone) :: read.settings
                  places := (f, extent) :: read.places
                  dangling := false }
        if ← pass then readFlagItems n read
        else fail .flagEnd (← here)

/-- Reads the flags of a group; the answer tells whether there is any item. -/
def readFlags : Reading (FlagSettings × Bool) := do
  let read ← readFlagItems ((← get).rest.length + 1) ⟨[], [], none, false⟩
  match read.negation with
  | some extent =>
    if read.dangling then fail .flagDangling extent
    else return (read.settings.reverse, true)
  | none => return (read.settings.reverse, !read.settings.isEmpty)

/-- The characters of names of groups. -/
def isNameChar (first : Bool) (c : Char) : Bool :=
  c == '_' || Unicode.alphabetic.contains c ||
    (!first && (c == '.' || c == '[' || c == ']' ||
      (Unicode.Category.membersOf [.decimalNumber, .letterNumber, .otherNumber]).contains c))

/-- Reads the characters of a name up to the closing bracket. -/
def readNameChars (start : Nat) : Nat → Reading Unit
  | 0 => return ()
  | n + 1 => do
    match ← peek with
    | none => return ()
    | some c =>
      if c = '>' then return ()
      else if isNameChar ((← position) == start) c then
        let _ ← pass
        readNameChars start n
      else fail .captureNameInvalid (← charExtent)

/-- Reads the name of a group, behind its opening bracket. -/
def readName : Reading Unit := do
  let before ← get
  let start := before.position
  readNameChars start before.rest.length
  if ← atEnd then fail .captureNameUnclosed (← here)
  else
    let stop ← position
    let extent : Extent := ⟨start, stop⟩
    let name := before.rest.take (stop - start)
    let _ ← pass
    if name.isEmpty then fail .captureNameEmpty (Extent.point start)
    else
      match before.names.lookup name with
      | some earlier => failAgain .captureNameDuplicate extent earlier
      | none => modify fun c => { c with names := (name, extent) :: c.names }

/-- Counts one more capturing group and answers its number. -/
def nextCapture : Reading Nat := do
  let index := (← get).captures + 1
  modify fun c => { c with captures := index }
  return index

/-- The setting that flags give to the treatment of blanks. -/
def blanksSetting (settings : FlagSettings) : Option Bool :=
  settings.lookup .ignoreBlanks

/-- What stands behind an opening parenthesis. -/
inductive Opening where
  /-- Flags for the rest of the enclosing group. -/
  | flags (settings : FlagSettings)
  | capture (index : Nat)
  | group (settings : FlagSettings)

/-- Reads the opening of a group, at its parenthesis. -/
def readOpeningGroup (opened : Extent) : Reading Opening := do
  let _ ← pass
  passBlanks
  if ← acceptAny ["?=", "?!", "?<=", "?<!"] then
    fail .lookAround (← since opened.start)
  let inner ← here
  if ← acceptAny ["?P<", "?<"] then
    let index ← nextCapture
    readName
    return .capture index
  else if ← accept "?" then
    if ← atEnd then fail .groupUnclosed opened
    let (settings, any) ← readFlags
    let closed := (← peek) == some ')'
    let _ ← pass
    if !closed then return .group settings
    else if any then return .flags settings
    else fail .repetitionMissing inner
  else return .capture (← nextCapture)

/-- Parts in a row as one phrase; the last part stands first. -/
def sequencePhrase (extent : Extent) : List Phrase → Phrase
  | [] => .empty extent
  | [part] => part
  | parts => .concat extent parts.reverse

/-- The part that a repetition repeats, and the parts before it. -/
def operand (parts : List Phrase) : Reading (Phrase × List Phrase) := do
  match parts with
  | [] => fail .repetitionMissing (← here)
  | .empty _ :: _ => fail .repetitionMissing (← here)
  | .flags _ _ :: _ => fail .repetitionMissing (← here)
  | part :: before => return (part, before)

/-- Reads the question mark that makes a repetition lazy. -/
def readLazy (more : Bool) : Reading Bool := do
  if more && (← peek) == some '?' then
    let _ ← pass
    return true
  else return false

/-- Reads a repetition by a single sign. -/
def readSimpleRepetition (parts : List Phrase) (least : Nat) (most : Option Nat) :
    Reading (List Phrase) := do
  let (part, before) ← operand parts
  let more ← pass
  let isLazy ← readLazy more
  return .repetition (← since part.extent.start) least most (!isLazy) part :: before

/-- Reads a number of repetitions; the answer may be a mistake that is not raised yet. -/
def readCount : Reading (Except Mistake Nat) := do
  let _ ← collect isBlank
  let start ← position
  let digits ← collect Char.isDigit
  let extent ← since start
  let _ ← collect isBlank
  if digits.isEmpty then return .error ⟨.repetitionCountDecimal, extent, none⟩
  else
    let n := digits.foldl (fun n c => 10 * n + hexValue c) 0
    if n < Nat.pow 2 32 then return .ok n else return .error ⟨.decimalInvalid, extent, none⟩

/-- Raises a mistake that was put off. -/
def raise {α : Type} (result : Except Mistake α) : Reading α :=
  match result with
  | .ok a => return a
  | .error m => throw m

/-- Reads a repetition with bounds in braces. -/
def readCountedRepetition (parts : List Phrase) : Reading (List Phrase) := do
  let start ← position
  let (part, before) ← operand parts
  if !(← passWithBlanks) then fail .repetitionCountUnclosed (← since start)
  let least ← readCount
  if ← atEnd then fail .repetitionCountUnclosed (← since start)
  let (least, most) ←
    if (← peek) = some ',' then
      if !(← passWithBlanks) then fail .repetitionCountUnclosed (← since start)
      let least ← raise least
      if (← peek) = some '\x7d' then pure (least, none)
      else pure (least, some (← raise (← readCount)))
    else
      let count ← raise least
      pure (count, some count)
  if (← peek) ≠ some '\x7d' then fail .repetitionCountUnclosed (← since start)
  let more ← passWithBlanks
  let isLazy ← readLazy more
  match most with
  | some n => if n < least then fail .repetitionCountOrder (← since start)
  | none => pure ()
  return .repetition (← since part.extent.start) least most (!isLazy) part :: before

/-- Reads a part that is no group, class or repetition. -/
def readPrimitive (c : Char) : Reading Phrase := do
  if c = '\\' then readEscape
  else
    let extent ← charExtent
    let _ ← pass
    match c with
    | '.' => return .dot extent
    | '^' => return .anchor extent .lineStart
    | '$' => return .anchor extent .lineEnd
    | c => return .literal ⟨extent, c, false⟩

/-- The alternatives of a group read so far. -/
structure Alternatives where
  /-- Where the group begins, unless it is the whole pattern. -/
  opened : Option Extent
  /-- Where the first branch begins. -/
  start : Nat
  /-- The branches that are complete, the last one first. -/
  branches : List Phrase
  /-- Where the current branch begins. -/
  branchStart : Nat
  /-- The parts of the current branch, the last one first. -/
  parts : List Phrase

namespace Alternatives

/-- Nothing read yet. -/
def none (opened : Option Extent) (start : Nat) : Alternatives :=
  ⟨opened, start, [], start, []⟩

/-- The current branch as a phrase. -/
def branch (a : Alternatives) (stop : Nat) : Phrase :=
  sequencePhrase ⟨a.branchStart, stop⟩ a.parts

/-- All branches as a phrase. -/
def phrase (a : Alternatives) (stop : Nat) : Phrase :=
  match a.branches with
  | [] => a.branch stop
  | branches => .alternation ⟨a.start, stop⟩ (a.branch stop :: branches).reverse

/-- Begins another branch. -/
def nextBranch (a : Alternatives) (bar : Nat) : Alternatives :=
  { a with branches := a.branch bar :: a.branches, branchStart := bar + 1, parts := [] }

/-- One more part of the current branch. -/
def push (a : Alternatives) (part : Phrase) : Alternatives :=
  { a with parts := part :: a.parts }

end Alternatives

mutual

/-- Reads a group or a change of flags, at its opening parenthesis. -/
def readGroup : Nat → Reading Phrase
  | 0 => do fail .groupUnclosed (← here)
  | fuel + 1 => do
    let opened ← charExtent
    let outer := (← get).ignoreBlanks
    match ← readOpeningGroup opened with
    | .flags settings =>
      modify fun c => { c with ignoreBlanks := (blanksSetting settings).getD c.ignoreBlanks }
      return .flags (← since opened.start) settings
    | .capture index =>
      let body ← readAlternatives fuel (Alternatives.none (some opened) (← position))
      modify fun c => { c with ignoreBlanks := outer }
      let _ ← pass
      return .capture (← since opened.start) index body
    | .group settings =>
      modify fun c => { c with ignoreBlanks := (blanksSetting settings).getD c.ignoreBlanks }
      let body ← readAlternatives fuel (Alternatives.none (some opened) (← position))
      modify fun c => { c with ignoreBlanks := outer }
      let _ ← pass
      return .group (← since opened.start) settings body

/-- Reads the alternatives of a group up to its closing parenthesis, or of the whole pattern. -/
def readAlternatives : Nat → Alternatives → Reading Phrase
  | 0, _ => do fail .groupUnclosed (← here)
  | fuel + 1, read => do
    passBlanks
    match ← peek with
    | none =>
      match read.opened with
      | some opened => fail .groupUnclosed opened
      | none => return read.phrase (← position)
    | some ')' =>
      match read.opened with
      | some _ => return read.phrase (← position)
      | none => fail .groupUnopened (← charExtent)
    | some '|' =>
      let bar ← position
      let _ ← pass
      readAlternatives fuel (read.nextBranch bar)
    | some '(' =>
      let part ← readGroup fuel
      readAlternatives fuel (read.push part)
    | some '[' =>
      let c ← readClass (2 * (← get).rest.length + 2)
      readAlternatives fuel (read.push (.bracketed c.extent c.negated c.inner))
    | some '?' =>
      let parts ← readSimpleRepetition read.parts 0 (some 1)
      readAlternatives fuel { read with parts := parts }
    | some '*' =>
      let parts ← readSimpleRepetition read.parts 0 none
      readAlternatives fuel { read with parts := parts }
    | some '+' =>
      let parts ← readSimpleRepetition read.parts 1 none
      readAlternatives fuel { read with parts := parts }
    | some '\x7b' =>
      let parts ← readCountedRepetition read.parts
      readAlternatives fuel { read with parts := parts }
    | some c =>
      let part ← readPrimitive c
      readAlternatives fuel (read.push part)

end

/-- Reads a whole pattern.  A character takes one step of `readAlternatives`, and a parenthesis one
    of `readGroup` besides, so twice as many steps as characters are enough. -/
def readPattern (pattern : Text) : Except Mistake Phrase :=
  ((readAlternatives (2 * pattern.length + 2) (Alternatives.none none 0)).run
    (ReadPoint.ofPattern pattern)).map Prod.fst

end TextCursor.Regex
