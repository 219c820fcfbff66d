import TextCursor.Regex.Phrase.Reading

/-! # Escapes

    What a backslash begins: literals by name or number, classes, anchors, and
    characters that would otherwise have a meaning. -/

namespace TextCursor.Regex

open Reading

/-- The characters that have a meaning of their own somewhere. -/
def isMeta (c : Char) : Bool :=
  ['\\', '.', '+', '*', '?', '(', ')', '|', '[', ']', '\x7b', '\x7d', '^', '$', '#', '&', '-',
   '~'].contains c

/-- The characters that stand for themselves after a backslash. -/
def isEscapable (c : Char) : Bool :=
  isMeta c || (c.toNat < 0x80 && !c.isAlphanum && c ≠ '<' && c ≠ '>')

/-- The digits of hexadecimal numbers. -/
def isHexDigit (c : Char) : Bool :=
  c.isDigit || ('a' ≤ c && c ≤ 'f') || ('A' ≤ c && c ≤ 'F')

/-- The value of a hexadecimal digit. -/
def hexValue (c : Char) : Nat :=
  if c.isDigit then c.toNat - '0'.toNat
  else if 'a' ≤ c then c.toNat - 'a'.toNat + 10
  else c.toNat - 'A'.toNat + 10

/-- The character with a code point in hexadecimal digits. -/
def charOfHex? (digits : Text) : Option Char :=
  let n := digits.foldl (fun n c => 16 * n + hexValue c) 0
  if n.isValidChar then some (Char.ofNat n) else none

/-- Reads exactly so many hexadecimal digits, up to the last one. -/
def readHexDigits : Nat → Reading Text
  | 0 => return []
  | n + 1 => do
    match ← peek with
    | some c =>
      if !isHexDigit c then fail .hexDigit (← charExtent)
      else if n = 0 then return [c]
      else if ← passWithBlanks then return c :: (← readHexDigits n)
      else fail .escapeEnd (← here)
    | none => fail .escapeEnd (← here)

/-- Reads a code point with a fixed number of digits. -/
def readFixedHex (start digits : Nat) : Reading Literal := do
  let first ← position
  let written ← readHexDigits digits
  let _ ← passWithBlanks
  match charOfHex? written with
  | some c => return ⟨← since start, c, digits = 2⟩
  | none => fail .hexValue (← since first)

/-- Reads a code point between braces. -/
def readBracedHex (start : Nat) : Reading Literal := do
  let brace ← position
  let _ ← passWithBlanks
  let digits ← collect isHexDigit
  match ← peek with
  | none => fail .escapeEnd (← since brace)
  | some c =>
    if c ≠ '\x7d' then fail .hexDigit (← charExtent)
    else
      let stop ← position
      let _ ← passWithBlanks
      if digits.isEmpty then fail .hexEmpty (← since brace)
      else
        match charOfHex? digits with
        | some c => return ⟨← since start, c, false⟩
        | none => fail .hexValue ⟨brace + 1, stop⟩

/-- Reads a character by its code point, at the letter that says how. -/
def readHex (start : Nat) (letter : Char) : Reading Phrase := do
  if !(← passWithBlanks) then fail .escapeEnd (← here)
  else if (← peek) = some '\x7b' then return .literal (← readBracedHex start)
  else
    let digits := if letter = 'x' then 2 else if letter = 'u' then 4 else 8
    return .literal (← readFixedHex start digits)

/-- The parts of a text before and after the first occurrence of another one. -/
def splitAtFirst? (separator : Text) : Text → Option (Text × Text)
  | [] => none
  | c :: rest =>
    if separator.isPrefixOf (c :: rest) then some ([], (c :: rest).drop separator.length)
    else (splitAtFirst? separator rest).map fun (front, back) => (c :: front, back)

/-- The query that a name between braces asks, and whether it asks for all other characters. -/
def queryOf (name : Text) : Unicode.Query × Bool :=
  match splitAtFirst? "!=".toList name with
  | some (property, value) => (.valued property value, true)
  | none =>
    match [":", "="].findSome? fun s => splitAtFirst? s.toList name with
    | some (property, value) => (.valued property value, false)
    | none => (.named name, false)

/-- Reads a class by a property of its characters, at the letter `p` or `P`. -/
def readProperty (start : Nat) (letter : Char) : Reading Phrase := do
  let negated := letter == 'P'
  if !(← passWithBlanks) then fail .escapeEnd (← here)
  else
    match ← peek with
    | some '\x7b' =>
      let _ ← passWithBlanks
      let name ← collect (· ≠ '\x7d')
      if ← atEnd then fail .escapeEnd (← here)
      else
        let _ ← pass
        let (query, others) := queryOf name
        return .unicode (← since start) query (negated != others)
    | some '\\' => fail .propertyLetter (← charExtent)
    | some c =>
      let _ ← passWithBlanks
      return .unicode (← since start) (.named [c]) negated
    | none => fail .escapeEnd (← here)

/-- The class of a letter, and whether the letter stands for its complement. -/
def shortClass? : Char → Option (ShortClass × Bool)
  | 'd' => some (.digit, false)
  | 's' => some (.blank, false)
  | 'w' => some (.word, false)
  | 'D' => some (.digit, true)
  | 'S' => some (.blank, true)
  | 'W' => some (.word, true)
  | _ => none

/-- The control character of a letter. -/
def control? : Char → Option Char
  | 'a' => some '\x07'
  | 'f' => some '\x0c'
  | 't' => some '\t'
  | 'n' => some '\n'
  | 'r' => some '\r'
  | 'v' => some '\x0b'
  | _ => none

/-- The anchor of a letter or sign. -/
def anchor? : Char → Option Anchor
  | 'A' => some .textStart
  | 'z' => some .textEnd
  | 'B' => some .notWordBoundary
  | '<' => some .wordStart
  | '>' => some .wordEnd
  | _ => none

/-- The word boundary with a name. -/
def namedBoundary? : String → Option Anchor
  | "start" => some .wordStart
  | "end" => some .wordEnd
  | "start-half" => some .wordStartHalf
  | "end-half" => some .wordEndHalf
  | _ => none

/-- The characters of the names of word boundaries. -/
def isBoundaryNameChar (c : Char) : Bool :=
  c.isAlpha || c == '-'

/-- Reads the name of a word boundary in braces.  What does not begin like a name is left for a
    counted repetition. -/
def readBoundaryName (start : Nat) : Reading (Option Anchor) := do
  let before ← get
  let brace := before.position
  if !(← passWithBlanks) then fail .wordBoundaryEnd (← since start)
  else
    let first ← position
    let name ← collect isBoundaryNameChar
    if name.isEmpty then
      set before
      return none
    else if (← peek) ≠ some '\x7d' then fail .wordBoundaryUnclosed (← since brace)
    else
      let stop ← position
      let _ ← pass
      match namedBoundary? (String.ofList name) with
      | some kind => return some kind
      | none => fail .wordBoundaryUnknown ⟨first, stop⟩

/-- Reads what stands after a backslash when it is one character long, or a word boundary. -/
def readShortEscape (start : Nat) (c : Char) : Reading Phrase := do
  let _ ← pass
  let extent ← since start
  if isEscapable c then return .literal ⟨extent, c, false⟩
  else if c = 'b' then
    if (← peek) = some '\x7b' then
      match ← readBoundaryName start with
      | some kind => return .anchor (← since start) kind
      | none => return .anchor extent .wordBoundary
    else return .anchor extent .wordBoundary
  else
    match control? c, anchor? c with
    | some d, _ => return .literal ⟨extent, d, false⟩
    | none, some kind => return .anchor extent kind
    | none, none => fail .escapeUnknown extent

/-- Reads an escape, at its backslash. -/
def readEscape : Reading Phrase := do
  let start ← position
  let _ ← pass
  match ← peek with
  | none => fail .escapeEnd (← since start)
  | some c =>
    if c.isDigit then fail .backreference ⟨start, (← position) + 1⟩
    else if c = 'x' ∨ c = 'u' ∨ c = 'U' then readHex start c
    else if c = 'p' ∨ c = 'P' then readProperty start c
    else
      match shortClass? c with
      | some (kind, negated) =>
        let _ ← pass
        return .short (← since start) kind negated
      | none => readShortEscape start c

end TextCursor.Regex
