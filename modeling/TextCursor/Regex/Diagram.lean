import TextCursor.Regex.Mistake

/-! # Diagrams of mistakes

    A mistake is shown by the pattern with carets below its extents, one caret
    for an empty extent.  A pattern of one line is indented by four blanks.  A
    pattern with line feeds stands between two rules, its lines numbered from
    one; an extent that crosses lines has no carets and is told in words below
    the second rule. -/

namespace TextCursor.Regex.Diagram

/-- A position in a pattern by line and column, both counted from one. -/
structure Place where
  line : Nat
  column : Nat
deriving DecidableEq, Repr

/-- The place of a character position. -/
def place (pattern : Text) (n : Nat) : Place :=
  (pattern.take n).foldl
    (fun p c => if c = '\n' then ⟨p.line + 1, 1⟩ else ⟨p.line, p.column + 1⟩) ⟨1, 1⟩

/-- A line without the carriage return at its end. -/
def dropReturn (line : Text) : Text :=
  if line.getLast? = some '\r' then line.dropLast else line

/-- The lines of a text after the characters of the current line, which stand reversed.  A line
    feed ends a line, with a carriage return before it; nothing follows the last one. -/
def linesFrom (current : Text) : Text → List Text
  | [] => if current.isEmpty then [] else [current.reverse]
  | c :: rest =>
    if c = '\n' then dropReturn current.reverse :: linesFrom [] rest
    else linesFrom (c :: current) rest

/-- The lines of a text. -/
def lines (t : Text) : List Text :=
  linesFrom [] t

/-- The extents of a mistake in text order. -/
def extents (m : Mistake) : List Extent :=
  match m.earlier with
  | none => [m.extent]
  | some e =>
    if e.start < m.extent.start ∨ (e.start = m.extent.start ∧ e.stop ≤ m.extent.stop) then
      [e, m.extent]
    else [m.extent, e]

/-- Carets below the given columns, each a first column and a number of carets. -/
def carets (marks : List (Nat × Nat)) : Text :=
  (marks.foldl
    (fun (line, written) (column, count) =>
      (line ++ List.replicate (column - 1 - written) ' ' ++ List.replicate (max 1 count) '^',
        max written (column - 1) + max 1 count))
    (([] : Text), 0)).1

/-- The carets of the extents that lie on one line. -/
def marksOn (pattern : Text) (es : List Extent) (line : Nat) : List (Nat × Nat) :=
  es.filterMap fun e =>
    let start := place pattern e.start
    let stop := place pattern e.stop
    if start.line = line ∧ stop.line = line then
      some (start.column, stop.column - start.column)
    else none

/-- The extents that cross lines, in words. -/
def crossings (pattern : Text) (es : List Extent) : List Text :=
  es.filterMap fun e =>
    let start := place pattern e.start
    let stop := place pattern e.stop
    if start.line = stop.line then none
    else some <|
      "on line ".toList ++ Text.ofNat start.line ++ " (column ".toList ++
        Text.ofNat start.column ++ ") through line ".toList ++ Text.ofNat stop.line ++
        " (column ".toList ++ Text.ofNat (stop.column - 1) ++ ")".toList

/-- A number padded with blanks on the left. -/
def padded (width n : Nat) : Text :=
  let digits := Text.ofNat n
  List.replicate (width - digits.length) ' ' ++ digits

/-- The lines of a pattern, each with its carets below it. -/
def notated (pattern : Text) (es : List Extent) : List Text :=
  let body := lines pattern
  let count := if pattern.getLast? = some '\n' then body.length + 1 else body.length
  let numberWidth := if count ≤ 1 then 0 else (Text.ofNat count).length
  let margin := if numberWidth = 0 then 4 else numberWidth + 2
  body.zipIdx.flatMap fun (line, i) =>
    let head :=
      if numberWidth = 0 then List.replicate 4 ' '
      else padded numberWidth (i + 1) ++ [':', ' ']
    match marksOn pattern es (i + 1) with
    | [] => [head ++ line]
    | marks => [head ++ line, List.replicate margin ' ' ++ carets marks]

/-- The whole diagram with the description of the mistake. -/
def render (pattern : Text) (m : Mistake) : Text :=
  let es := extents m
  let heading := "regex parse error:".toList
  let description := "error: ".toList ++ m.cause.description.toList
  let rows :=
    if pattern.contains '\n' then
      let rule := List.replicate 79 '~'
      [heading, rule] ++ notated pattern es ++ [rule] ++ crossings pattern es ++ [description]
    else [heading] ++ notated pattern es ++ [description]
  List.intercalate ['\n'] rows

end TextCursor.Regex.Diagram
