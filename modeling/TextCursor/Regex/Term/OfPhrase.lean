import TextCursor.Regex.Phrase
import TextCursor.Regex.Term
import TextCursor.Unicode.Folding

/-! # The meaning of a phrase

    Flags hold from where they stand to the end of the enclosing group, across
    its branches.  Where Unicode is switched off, classes are ASCII and must
    stay within it: what could match half a character is refused. -/

namespace TextCursor.Regex

/-- The settings of all flags that concern meaning. -/
structure Settings where
  caseInsensitive : Bool := false
  multiLine : Bool := false
  dotMatchesLineFeed : Bool := false
  swapGreed : Bool := false
  unicode : Bool := true
  crlf : Bool := false
deriving DecidableEq, Repr

namespace Settings

/-- Changes one flag. -/
def set (s : Settings) : Flag × Bool → Settings
  | (.caseInsensitive, b) => { s with caseInsensitive := b }
  | (.multiLine, b) => { s with multiLine := b }
  | (.dotMatchesLineFeed, b) => { s with dotMatchesLineFeed := b }
  | (.swapGreed, b) => { s with swapGreed := b }
  | (.unicode, b) => { s with unicode := b }
  | (.crlf, b) => { s with crlf := b }
  | (.ignoreBlanks, _) => s

/-- Changes several flags. -/
def change (s : Settings) (settings : FlagSettings) : Settings :=
  settings.foldl set s

/-- A set with the case variants of its members, where case is ignored. -/
def foldCase (s : Settings) (chars : CharSet) : CharSet :=
  if s.caseInsensitive then
    if s.unicode then Unicode.foldClosure chars else Unicode.asciiFoldClosure chars
  else chars

end Settings

/-- A result, or a mistake. -/
abbrev Resolved := Except Mistake

/-- Refuses what stands at an extent. -/
def refuse {α : Type} (cause : Cause) (extent : Extent) : Resolved α :=
  .error ⟨cause, extent, none⟩

/-- Passes a set on; without Unicode it must be ASCII. -/
def requireAscii (s : Settings) (extent : Extent) (chars : CharSet) : Resolved CharSet :=
  if s.unicode || chars.isAscii then .ok chars else refuse .invalidUtf8 extent

/-- A set after case folding and negation. -/
def closeSet (s : Settings) (extent : Extent) (negated : Bool) (chars : CharSet) :
    Resolved CharSet :=
  let folded := s.foldCase chars
  requireAscii s extent (if negated then folded.complement else folded)

/-- The set of a one-letter class. -/
def shortSet (s : Settings) (extent : Extent) (kind : ShortClass) (negated : Bool) :
    Resolved CharSet :=
  let chars :=
    match kind, s.unicode with
    | .digit, true => Unicode.decimalDigit
    | .blank, true => Unicode.blank
    | .word, true => Unicode.wordCharacter
    | .digit, false => CharSet.ofRanges AsciiClass.digit.ranges
    | .blank, false => CharSet.ofRanges AsciiClass.space.ranges
    | .word, false => CharSet.ofRanges AsciiClass.word.ranges
  requireAscii s extent (if negated then chars.complement else chars)

/-- The set of a property. -/
def propertySet (s : Settings) (extent : Extent) (query : Unicode.Query) (negated : Bool) :
    Resolved CharSet :=
  if !s.unicode then refuse .unicodeOff extent
  else
    match query.run with
    | .ok chars => closeSet s extent negated chars
    | .error .propertyNotFound => refuse .propertyNotFound extent
    | .error .valueNotFound => refuse .propertyValueNotFound extent

/-- A character of the pattern.  Without Unicode two hexadecimal digits mean a byte, which must
    be ASCII. -/
def literalChar (s : Settings) (l : Literal) : Resolved Char :=
  if !s.unicode && l.byByte && 0x7F < l.char.toNat then refuse .invalidUtf8 l.extent
  else .ok l.char

/-- A character of a class.  Without Unicode it must be ASCII. -/
def classChar (s : Settings) (l : Literal) : Resolved Char := do
  let c ← literalChar s l
  if s.unicode || c.toNat < 0x80 then return c
  else refuse .unicodeOff l.extent

/-- The set that an operator makes of two sets. -/
def SetOperator.apply : SetOperator → CharSet → CharSet → CharSet
  | .intersection, a, b => a.inter b
  | .difference, a, b => a.diff b
  | .symmetricDifference, a, b => a.symmDiff b

mutual

/-- The set of what stands in a class. -/
def classSet (s : Settings) : ClassPhrase → Resolved CharSet
  | .empty _ => .ok CharSet.empty
  | .literal l => do return CharSet.single (← classChar s l)
  | .range _ low high => do
    let low ← classChar s low
    let high ← classChar s high
    return CharSet.range low.toNat high.toNat
  | .ascii extent kind negated => closeSet s extent negated (CharSet.ofRanges kind.ranges)
  | .unicode extent query negated => propertySet s extent query negated
  | .short extent kind negated => shortSet s extent kind negated
  | .bracketed extent negated inner => do closeSet s extent negated (← classSet s inner)
  | .union _ items => classSets s items
  | .combined _ operator left right => do
    let left ← classSet s left
    let right ← classSet s right
    return operator.apply (s.foldCase left) (s.foldCase right)

/-- The union of the sets of several members of a class. -/
def classSets (s : Settings) : List ClassPhrase → Resolved CharSet
  | [] => .ok CharSet.empty
  | item :: items => do
    let set ← classSet s item
    return set.union (← classSets s items)

end

/-- The look of an anchor. -/
def anchorLook (s : Settings) : Anchor → Look
  | .lineStart => if s.multiLine then if s.crlf then .lineStartCrlf else .lineStart else .start
  | .lineEnd => if s.multiLine then if s.crlf then .lineStopCrlf else .lineStop else .stop
  | .textStart => .start
  | .textEnd => .stop
  | .wordBoundary => .wordEdge s.unicode
  | .notWordBoundary => .notWordEdge s.unicode
  | .wordStart => .wordStart s.unicode
  | .wordEnd => .wordStop s.unicode
  | .wordStartHalf => .wordStartHalf s.unicode
  | .wordEndHalf => .wordStopHalf s.unicode

/-- The set of the dot. -/
def dotSet (s : Settings) : CharSet :=
  if s.dotMatchesLineFeed then CharSet.full
  else if s.crlf then (CharSet.ofText ['\n', '\r']).complement
  else (CharSet.single '\n').complement

/-- The term of a character of the pattern. -/
def literalTerm (s : Settings) (l : Literal) : Resolved Term := do
  let c ← literalChar s l
  return Term.ofSet (s.foldCase (CharSet.single c))

mutual

/-- The term of a phrase under given settings, and the settings in force behind it. -/
def resolve (s : Settings) : Phrase → Resolved (Term × Settings)
  | .empty _ => .ok (.empty, s)
  | .flags _ settings => .ok (.empty, s.change settings)
  | .literal l => do return (← literalTerm s l, s)
  | .dot extent =>
    if s.unicode then .ok (Term.ofSet (dotSet s), s) else refuse .invalidUtf8 extent
  | .anchor _ kind => .ok (.look (anchorLook s kind), s)
  | .unicode extent query negated => do
    return (Term.ofSet (← propertySet s extent query negated), s)
  | .short extent kind negated => do
    return (Term.ofSet (← shortSet s extent kind negated), s)
  | .bracketed extent negated inner => do
    let chars ← classSet s inner
    return (Term.ofSet (← closeSet s extent negated chars), s)
  | .repetition _ least most greedy body => do
    let (body, s) ← resolve s body
    return (Term.repeated least most (greedy != s.swapGreed) body, s)
  | .capture _ index body => do
    let (body, _) ← resolve s body
    return (.capture index body, s)
  | .group _ settings body => do
    let (body, _) ← resolve (s.change settings) body
    return (body, s)
  | .alternation _ branches => do
    let (branches, s) ← resolveAll s branches
    return (Term.alternatives branches, s)
  | .concat _ parts => do
    let (parts, s) ← resolveAll s parts
    return (Term.sequence parts, s)

/-- The terms of several phrases in order. -/
def resolveAll (s : Settings) : List Phrase → Resolved (List Term × Settings)
  | [] => .ok ([], s)
  | part :: parts => do
    let (term, s) ← resolve s part
    let (terms, s) ← resolveAll s parts
    return (term :: terms, s)

end

end TextCursor.Regex
