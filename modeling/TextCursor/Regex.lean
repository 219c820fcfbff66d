import TextCursor.Regex.Diagram
import TextCursor.Regex.Phrase.Depth
import TextCursor.Regex.Phrase.Expression
import TextCursor.Regex.Program.OfTerm
import TextCursor.Regex.Search
import TextCursor.Regex.Term.OfPhrase
import TextCursor.Regex.Term.Size

/-! # Regular expressions

    A pattern is read into a phrase, the phrase is resolved into a term, and the
    term is laid out as a program that searches.

    There are two kinds of matchers made of regular expressions.
    `Matcher.ofRegex` always seeks, and an anchored attempt keeps the match found
    only when it starts at 0; `Matcher.ofPrepared` searches anchored when it is
    asked to. -/

namespace TextCursor

/-- A compiled regular expression. -/
structure Regex where
  /-- The pattern as written. -/
  source : Text
  program : Regex.Program
deriving DecidableEq, Repr

namespace Regex

/-- Why a pattern does not compile. -/
inductive CompileError where
  | mistake (pattern : Text) (mistake : Mistake)
  /-- The program would be larger than allowed. -/
  | tooLarge
  /-- The pattern compiles, but not for anchored searches. -/
  | noAnchored (reason : Text)
deriving DecidableEq, Repr

/-- The text of an error. -/
def CompileError.message : CompileError → Text
  | .mistake pattern m => "invalid regex pattern: ".toList ++ Diagram.render pattern m
  | .tooLarge =>
    "invalid regex pattern: Compiled regex exceeds size limit of ".toList ++
      Text.ofNat Term.sizeLimit ++ " bytes.".toList
  | .noAnchored reason => "failed to build anchored matcher: ".toList ++ reason

/-- The term that a pattern means. -/
def meaning (pattern : Text) : Except Mistake Term := do
  let phrase ← readPattern pattern
  match phrase.tooDeep? 0 with
  | some extent => throw ⟨.nesting, extent, none⟩
  | none => return (← resolve {} phrase).1

/-- Compiles a pattern. -/
def compile (pattern : Text) : Except CompileError Regex :=
  match meaning pattern with
  | .error m => .error (.mistake pattern m)
  | .ok t =>
    if t.tooLarge then .error .tooLarge
    else .ok ⟨pattern, t.program⟩

/-- The leftmost match in a haystack. -/
def find (r : Regex) (haystack : Text) : Option Span :=
  r.program.search false haystack

/-- The match at the start of a haystack. -/
def findAtStart (r : Regex) (haystack : Text) : Option Span :=
  r.program.search true haystack

end Regex

/-- A regular expression compiled twice: for seeking and for anchored searches. -/
structure PreparedRegex where
  seeking : Regex
  anchored : Regex
deriving DecidableEq, Repr

namespace PreparedRegex

/-- Compiles a pattern with two compilers, of which the second one is asked about what the first one
    accepts; what it refuses is told as an error of its own kind. -/
def compileBoth {ε δ ρ σ : Type} (noAnchored : δ → ε) (compile : Text → Except ε ρ)
    (compileAnchored : Text → Except δ σ) (pattern : Text) : Except ε (ρ × σ) := do
  let seeking ← compile pattern
  let anchored ← (compileAnchored pattern).mapError noAnchored
  return (seeking, anchored)

/-- Compiles a pattern for both kinds of searches. -/
def compile (pattern : Text) : Except Regex.CompileError PreparedRegex := do
  let (seeking, anchored) ←
    compileBoth (fun e => .noAnchored e.message) Regex.compile Regex.compile pattern
  return ⟨seeking, anchored⟩

/-- The pattern as written. -/
def source (r : PreparedRegex) : Text :=
  r.seeking.source

end PreparedRegex

namespace Matcher

/-- A regular expression that always seeks. -/
def ofRegex (r : Regex) : Matcher where
  find haystack anchored :=
    match r.find haystack with
    | some found => if anchored && found.start != 0 then none else some found
    | none => none

/-- A regular expression that searches anchored when it is asked to. -/
def ofPrepared (r : PreparedRegex) : Matcher where
  find haystack anchored :=
    if anchored then r.anchored.findAtStart haystack else r.seeking.find haystack

end Matcher

end TextCursor
