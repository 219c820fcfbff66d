import TextCursor.Regex.Phrase.Escape

/-! # Bracketed classes

    A class lists characters, ranges and other classes; between lists may stand
    set operators, all of one rank, which join to the left. -/

namespace TextCursor.Regex

open Reading

/-- The members of a class read so far, the last one first, and their extent. -/
structure Members where
  extent : Extent
  items : List ClassPhrase

namespace Members

/-- No members, at a position. -/
def none (n : Nat) : Members :=
  ⟨Extent.point n, []⟩

/-- One more member. -/
def push (m : Members) (item : ClassPhrase) : Members :=
  ⟨⟨if m.items.isEmpty then item.extent.start else m.extent.start, item.extent.stop⟩,
    item :: m.items⟩

/-- The members as one phrase. -/
def phrase (m : Members) : ClassPhrase :=
  match m.items with
  | [] => .empty m.extent
  | [item] => item
  | items => .union m.extent items.reverse

end Members

/-- Joins what stands left of an operator, if there is one, to what stands right of it. -/
def joinSets (left : Option (SetOperator × ClassPhrase)) (right : ClassPhrase) : ClassPhrase :=
  match left with
  | none => right
  | some (operator, left) =>
    .combined ⟨left.extent.start, right.extent.stop⟩ operator left right

/-- The operator that two characters in a row write. -/
def setOperator? (c : Char) (next : Option Char) : Option SetOperator :=
  if next ≠ some c then none
  else
    match c with
    | '&' => some .intersection
    | '-' => some .difference
    | '~' => some .symmetricDifference
    | _ => none

/-- The class named between `[:` and `:]`; none when that is not what stands here. -/
def asciiClassAhead? (c : ReadPoint) : Option (AsciiClass × Bool × Nat) :=
  match c.rest with
  | '[' :: ':' :: rest =>
    let negated := rest.head? = some '^'
    let rest := if negated then rest.tail else rest
    let name := rest.takeWhile (· ≠ ':')
    if [':', ']'].isPrefixOf (rest.drop name.length) then
      (AsciiClass.ofName? (String.ofList name)).map fun kind =>
        (kind, negated, name.length + if negated then 5 else 4)
    else none
  | _ => none

/-- Reads the dashes with which a class may begin. -/
def readLeadingDashes (start : Nat) : Nat → Members → Reading Members
  | 0, members => return members
  | n + 1, members => do
    if (← peek) = some '-' then
      let members := members.push (.literal ⟨← charExtent, '-', false⟩)
      if ← passWithBlanks then readLeadingDashes start n members
      else fail .classUnclosed (Extent.point start)
    else return members

/-- Reads the opening of a class: the bracket, a negation, and the members that stand for
    themselves in first place only. -/
def readOpening (start : Nat) : Reading (Bool × Members) := do
  if !(← passWithBlanks) then fail .classUnclosed (← since start)
  let negated := (← peek) == some '^'
  if negated then
    if !(← passWithBlanks) then fail .classUnclosed (← since start)
  let members ← readLeadingDashes start (← get).rest.length (Members.none (← position))
  if members.items.isEmpty && (← peek) == some ']' then
    let members := members.push (.literal ⟨← charExtent, ']', false⟩)
    if ← passWithBlanks then return (negated, members)
    else fail .classUnclosed (← since start)
  else return (negated, members)

/-- Reads one character or escape of a class. -/
def readMember : Reading Phrase := do
  match ← peek with
  | some '\\' => readEscape
  | some c =>
    let extent ← charExtent
    let _ ← pass
    return .literal ⟨extent, c, false⟩
  | none => fail .classUnclosed (← here)

/-- An escape as a member of a class. -/
def memberOf : Phrase → Reading ClassPhrase
  | .literal l => return .literal l
  | .unicode e query negated => return .unicode e query negated
  | .short e kind negated => return .short e kind negated
  | p => fail .classEscape p.extent

/-- An escape as a boundary of a range. -/
def boundaryOf : Phrase → Reading Literal
  | .literal l => return l
  | p => fail .classRangeBoundary p.extent

/-- Reads a member or a range; `opening` is the extent to blame when the pattern ends. -/
def readRange (opening : Extent) : Reading ClassPhrase := do
  let low ← readMember
  passBlanks
  if ← atEnd then fail .classUnclosed opening
  else
    let second := (← get).second
    if (← peek) ≠ some '-' || second == some ']' || second == some '-' then memberOf low
    else if !(← passWithBlanks) then fail .classUnclosed opening
    else
      let high ← readMember
      let extent : Extent := ⟨low.extent.start, high.extent.stop⟩
      let low ← boundaryOf low
      let high ← boundaryOf high
      if low.char ≤ high.char then return .range extent low high
      else fail .classRangeOrder extent

/-- A class with its brackets. -/
structure Bracketed where
  extent : Extent
  negated : Bool
  inner : ClassPhrase

mutual

/-- Reads a class, at its opening bracket.  Twice as many steps as characters left are enough: a
    bracket takes two, anything else one. -/
def readClass : Nat → Reading Bracketed
  | 0 => do fail .classUnclosed (← here)
  | fuel + 1 => do
    let start ← position
    let (negated, members) ← readOpening start
    let inner ← readMembers fuel (← since start) none members
    let _ ← pass
    return ⟨← since start, negated, inner⟩

/-- Reads the members of a class up to its closing bracket. -/
def readMembers : Nat → Extent → Option (SetOperator × ClassPhrase) → Members →
    Reading ClassPhrase
  | 0, opening, _, _ => fail .classUnclosed opening
  | fuel + 1, opening, left, members => do
    passBlanks
    match ← peek with
    | none => fail .classUnclosed opening
    | some ']' => return joinSets left members.phrase
    | some '[' =>
      match asciiClassAhead? (← get) with
      | some (kind, negated, length) =>
        let start ← position
        modify (·.pass length)
        readMembers fuel opening left (members.push (.ascii (← since start) kind negated))
      | none =>
        let nested ← readClass fuel
        readMembers fuel opening left
          (members.push (.bracketed nested.extent nested.negated nested.inner))
    | some c =>
      match setOperator? c (← peekNext) with
      | some operator =>
        modify (·.pass 2)
        readMembers fuel opening (some (operator, joinSets left members.phrase))
          (Members.none (← position))
      | none =>
        let item ← readRange opening
        readMembers fuel opening left (members.push item)

end

end TextCursor.Regex
