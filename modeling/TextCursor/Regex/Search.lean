import TextCursor.Matcher
import TextCursor.Regex.Program

/-! # Searching

    A search walks a haystack once, with a list of threads that wait for the
    next character, the preferred ones first.  A node is entered at most once
    at each position: a later thread could only repeat what an earlier one does.

    When a thread accepts, its match is kept and the threads behind it are
    dropped; those before it go on and may find a match that is preferred.  As
    long as nothing is found, a search that is not anchored starts one more
    thread at each position, behind all others.  So the match found is the
    leftmost one, and among those the preferred one. -/

namespace TextCursor.Regex

/-- A thread at a node, with the position at which its match begins. -/
structure Thread where
  node : Nat
  start : Nat
deriving DecidableEq, Repr

/-- The threads at a position, the preferred ones first, and the nodes entered there. -/
structure Front where
  entered : Array Bool
  threads : Array Thread
deriving DecidableEq, Repr

namespace Program

/-- No threads. -/
def noThreads (p : Program) : Front :=
  ⟨Array.replicate p.nodes.size false, #[]⟩

/-- Enters the nodes on a stack, and those they lead to without a character, in order.  Each node
    entered puts at most two on the stack, which bounds the number of steps. -/
def enterAll (p : Program) (before after : Option Char) (start : Nat) :
    Nat → List Nat → Front → Front
  | 0, _, front => front
  | _, [], front => front
  | steps + 1, n :: stack, front =>
    if front.entered.getD n true then p.enterAll before after start steps stack front
    else
      match front with
      | ⟨entered, threads⟩ =>
        let entered := entered.setIfInBounds n true
        match p.nodes[n]? with
        | some (.fork first second) =>
          p.enterAll before after start steps (first :: second :: stack) ⟨entered, threads⟩
        | some (.require look next) =>
          let stack := if look.holds before after then next :: stack else stack
          p.enterAll before after start steps stack ⟨entered, threads⟩
        | some (.consume _ _) | some .accept =>
          p.enterAll before after start steps stack ⟨entered, threads.push ⟨n, start⟩⟩
        | none => p.enterAll before after start steps stack ⟨entered, threads⟩

/-- Enters a node between two characters. -/
def enter (p : Program) (before after : Option Char) (start node : Nat) (front : Front) : Front :=
  p.enterAll before after start (2 * p.nodes.size + 2) [node] front

/-- The threads that go on over a character, in order, up to the first one that accepts; and the
    beginning of the match that this one ends. -/
def advance (p : Program) (c : Char) (after : Option Char) :
    List Thread → Front → Front × Option Nat
  | [], front => (front, none)
  | t :: ts, front =>
    match p.nodes[t.node]? with
    | some .accept => (front, some t.start)
    | some (.consume set next) =>
      if set.contains c then p.advance c after ts (p.enter (some c) after t.start next front)
      else p.advance c after ts front
    | _ => p.advance c after ts front

/-- The beginning of the match of the first thread that accepts. -/
def accepted (p : Program) (ts : List Thread) : Option Nat :=
  (ts.find? fun t => p.nodes[t.node]? = some .accept).map Thread.start

/-- Walks the rest of a haystack from a position, with the threads there and the best match found
    before. -/
def walk (p : Program) (anchored : Bool) :
    (before : Option Char) → (position : Nat) → Front → (best : Option Span) → Text → Option Span
  | before, position, front, best, rest =>
    let front :=
      if best.isNone && (!anchored || position == 0) then
        p.enter before rest.head? position p.start front
      else front
    match rest with
    | [] =>
      match p.accepted front.threads.toList with
      | some start => some ⟨start, position⟩
      | none => best
    | c :: rest =>
      if front.threads.isEmpty && (anchored || best.isSome) then best
      else
        let (next, found) := p.advance c rest.head? front.threads.toList p.noThreads
        let best :=
          match found with
          | some start => some ⟨start, position⟩
          | none => best
        p.walk anchored (some c) (position + c.utf8Size) next best rest

/-- The leftmost preferred match in a haystack, or the preferred match at its start when
    anchored. -/
def search (p : Program) (anchored : Bool) (haystack : Text) : Option Span :=
  p.walk anchored none 0 p.noThreads none haystack

end Program

end TextCursor.Regex
