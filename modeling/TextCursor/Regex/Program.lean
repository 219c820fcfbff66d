import TextCursor.Regex.Look

/-! # Programs

    A program is a numbered list of nodes.  A thread of control at a node that
    consumes a character waits for one of its set; a fork is tried in order, and
    so is everything behind it, which is how a program prefers one match to
    another. -/

namespace TextCursor.Regex

/-- A node of a program. -/
inductive Node where
  /-- Consumes a character of a set and goes on. -/
  | consume (set : CharSet) (next : Nat)
  /-- Goes both ways, and prefers the first. -/
  | fork (first second : Nat)
  /-- Goes on where a condition holds. -/
  | require (look : Look) (next : Nat)
  /-- Ends a match. -/
  | accept
deriving DecidableEq, Repr

/-- Nodes, and the number of the first one. -/
structure Program where
  nodes : Array Node
  start : Nat
deriving DecidableEq, Repr

end TextCursor.Regex
