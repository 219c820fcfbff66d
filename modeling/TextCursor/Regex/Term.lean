import TextCursor.Regex.Look
import TextCursor.Text

/-! # Terms

    What a regular expression means once its flags are resolved: sets of
    characters, looks, repetitions, sequences and choices.  Each shape has a
    constructor function that brings it into a simple form: neighbouring
    literals are joined, sequences and choices are flat, a choice between single
    characters is a set, and what all branches of a choice begin with stands
    before it. -/

namespace TextCursor.Regex

/-- The meaning of a regular expression. -/
inductive Term where
  | empty
  | literal (chars : Text)
  | oneOf (set : CharSet)
  | look (look : Look)
  | repetition (least : Nat) (most : Option Nat) (greedy : Bool) (body : Term)
  | capture (index : Nat) (body : Term)
  | concat (parts : List Term)
  | choice (branches : List Term)
deriving Repr

namespace Term

mutual

/-- Whether two terms are written alike. -/
def same : Term → Term → Bool
  | .empty, .empty => true
  | .literal a, .literal b => a == b
  | .oneOf a, .oneOf b => a == b
  | .look a, .look b => a == b
  | .repetition l m g a, .repetition l' m' g' b => l == l' && m == m' && g == g' && same a b
  | .capture i a, .capture j b => i == j && same a b
  | .concat as, .concat bs => sameAll as bs
  | .choice as, .choice bs => sameAll as bs
  | _, _ => false

/-- Whether two lists of terms are written alike. -/
def sameAll : List Term → List Term → Bool
  | [], [] => true
  | a :: as, b :: bs => same a b && sameAll as bs
  | _, _ => false

end

mutual

/-- The number of parts of a term. -/
def size : Term → Nat
  | .repetition _ _ _ body => size body + 1
  | .capture _ body => size body + 1
  | .concat parts => sizes parts + 1
  | .choice branches => sizes branches + 1
  | _ => 1

/-- The number of parts of several terms. -/
def sizes : List Term → Nat
  | [] => 0
  | t :: ts => size t + sizes ts

end

/-- The least of several widths; unknown when one of them is. -/
def leastWidth : List (Option Nat) → Option Nat
  | [] => none
  | [w] => w
  | w :: ws => do return min (← w) (← leastWidth ws)

/-- The greatest of several widths; unknown when one of them is. -/
def greatestWidth : List (Option Nat) → Option Nat
  | [] => none
  | [w] => w
  | w :: ws => do return max (← w) (← greatestWidth ws)

/-- The sum of several widths; unknown when one of them is. -/
def totalWidth : List (Option Nat) → Option Nat
  | [] => some 0
  | w :: ws => do return (← w) + (← totalWidth ws)

mutual

/-- The number of bytes of the shortest match; unknown for what cannot match. -/
def minWidth : Term → Option Nat
  | .empty => some 0
  | .literal cs => some cs.width
  | .oneOf s => s.minWidth?
  | .look _ => some 0
  | .repetition least _ _ body => (minWidth body).map (least * ·)
  | .capture _ body => minWidth body
  | .concat parts => totalWidth (minWidths parts)
  | .choice branches => leastWidth (minWidths branches)

/-- The shortest widths of several terms. -/
def minWidths : List Term → List (Option Nat)
  | [] => []
  | t :: ts => minWidth t :: minWidths ts

end

mutual

/-- The number of bytes of the longest match; unknown where there is none. -/
def maxWidth : Term → Option Nat
  | .empty => some 0
  | .literal cs => some cs.width
  | .oneOf s => s.maxWidth?
  | .look _ => some 0
  | .repetition _ most _ body => do return (← most) * (← maxWidth body)
  | .capture _ body => maxWidth body
  | .concat parts => totalWidth (maxWidths parts)
  | .choice branches => greatestWidth (maxWidths branches)

/-- The longest widths of several terms. -/
def maxWidths : List Term → List (Option Nat)
  | [] => []
  | t :: ts => maxWidth t :: maxWidths ts

end

/-- A single character. -/
def ofChar (c : Char) : Term :=
  .literal [c]

/-- Any character of a set. -/
def ofSet (s : CharSet) : Term :=
  match s.only? with
  | some c => ofChar c
  | none => .oneOf s

/-- A repetition.  What can only match nothing is repeated at most once. -/
def repeated (least : Nat) (most : Option Nat) (greedy : Bool) (body : Term) : Term :=
  let isEmpty := body.maxWidth == some 0
  let least := if isEmpty then min least 1 else least
  let most := if isEmpty then some (min (most.getD 1) 1) else most
  if least = 0 ∧ most = some 0 then .empty
  else if least = 1 ∧ most = some 1 then body
  else .repetition least most greedy body

/-- Adds a part in front of a flat sequence, joining literals. -/
def prepend (t : Term) (parts : List Term) : List Term :=
  match t, parts with
  | .empty, parts => parts
  | .literal cs, .literal ds :: rest => .literal (cs ++ ds) :: rest
  | t, parts => t :: parts

/-- The parts of a term in a sequence. -/
def partsOf : Term → List Term
  | .concat parts => parts
  | t => [t]

/-- The terms in a row. -/
def sequence (ts : List Term) : Term :=
  match (ts.flatMap partsOf).foldr prepend [] with
  | [] => .empty
  | [t] => t
  | parts => .concat parts

/-- The branches of a term in a choice. -/
def branchesOf : Term → List Term
  | .choice branches => branches
  | t => [t]

/-- The set of characters that a term stands for, if it stands for single characters. -/
def charSet? : Term → Option CharSet
  | .literal [c] => some (CharSet.single c)
  | .oneOf s => some s
  | _ => none

/-- The number of leading parts that two sequences share. -/
def sharedCount : List Term → List Term → Nat
  | a :: as, b :: bs => if same a b then sharedCount as bs + 1 else 0
  | _, _ => 0

/-- The parts of a term that is a sequence. -/
def concatParts? : Term → Option (List Term)
  | .concat parts => some parts
  | _ => none

/-- Splits what all branches begin with from what follows, if all of them are sequences. -/
def factor? (branches : List Term) : Option (List Term × List (List Term)) := do
  let sequences ← branches.mapM concatParts?
  match sequences with
  | [] => none
  | first :: others =>
    let count := others.foldl (fun n ts => min n (sharedCount first ts)) first.length
    if count = 0 then none
    else some (first.take count, sequences.map (·.drop count))

/-- The terms as alternatives, tried `rounds` times for a common beginning. -/
def choiceWithin : Nat → List Term → Term
  | rounds, ts =>
    match ts.flatMap branchesOf with
    | [] => .oneOf CharSet.empty
    | [t] => t
    | branches =>
      match branches.mapM charSet? with
      | some sets => ofSet (CharSet.unions sets)
      | none =>
        match rounds, factor? branches with
        | rounds + 1, some (shared, rests) =>
          sequence (shared ++ [choiceWithin rounds (rests.map sequence)])
        | _, _ => .choice branches

/-- The terms as alternatives.  A common beginning leaves smaller rests, so that as many rounds as
    the terms have parts are enough. -/
def alternatives (ts : List Term) : Term :=
  choiceWithin (sizes ts) ts

end Term

end TextCursor.Regex
