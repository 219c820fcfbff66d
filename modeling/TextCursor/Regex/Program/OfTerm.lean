import TextCursor.Regex.Program
import TextCursor.Regex.Term

/-! # The program of a term

    A term is laid out backwards: each part is given the node that follows it
    and answers with the node at which it begins.

    A loop whose body cannot match nothing is one fork.  Any other loop is laid
    out as an optional loop of at least one round, so that a round that matches
    nothing is tried in the right order. -/

namespace TextCursor.Regex

/-- The nodes laid out so far. -/
abbrev Layout := Array Node

/-- How a part is laid out in front of a node: its first node, and all nodes. -/
abbrev Emit := Nat → Layout → Nat × Layout

namespace Emit

/-- Adds one node. -/
def node (n : Node) (nodes : Layout) : Nat × Layout :=
  (nodes.size, nodes.push n)

/-- A fork between going in and going on; a lazy one prefers to go on. -/
def forkNode (greedy : Bool) (inside next : Nat) : Node :=
  if greedy then .fork inside next else .fork next inside

/-- Several copies of a part. -/
def copies (part : Emit) : Nat → Emit
  | 0 => fun next nodes => (next, nodes)
  | n + 1 => fun next nodes =>
    let (entry, nodes) := copies part n next nodes
    part entry nodes

/-- At most so many copies of a part, each inside the one before. -/
def optionals (greedy : Bool) (part : Emit) : Nat → Emit
  | 0 => fun next nodes => (next, nodes)
  | n + 1 => fun next nodes =>
    let (inner, nodes) := optionals greedy part n next nodes
    let (entry, nodes) := part inner nodes
    node (forkNode greedy entry next) nodes

/-- At least one round of a part: the fork behind the part goes back to it. -/
def rounds (greedy : Bool) (part : Emit) : Emit := fun next nodes =>
  let (fork, nodes) := node .accept nodes
  let (entry, nodes) := part fork nodes
  (entry, nodes.setIfInBounds fork (forkNode greedy entry next))

/-- Any number of rounds of a part that consumes something. -/
def loop (greedy : Bool) (part : Emit) : Emit := fun next nodes =>
  let (fork, nodes) := node .accept nodes
  let (entry, nodes) := part fork nodes
  (fork, nodes.setIfInBounds fork (forkNode greedy entry next))

/-- Any number of rounds of a part that may match nothing. -/
def emptyLoop (greedy : Bool) (part : Emit) : Emit := fun next nodes =>
  let (entry, nodes) := rounds greedy part next nodes
  node (forkNode greedy entry next) nodes

/-- A repetition of a part. -/
def repetition (least : Nat) (most : Option Nat) (greedy consumes : Bool) (part : Emit) : Emit :=
  match least, most with
  | 0, none => if consumes then loop greedy part else emptyLoop greedy part
  | n + 1, none => fun next nodes =>
    let (entry, nodes) := rounds greedy part next nodes
    copies part n entry nodes
  | least, some most => fun next nodes =>
    let (entry, nodes) := optionals greedy part (most - least) next nodes
    copies part least entry nodes

/-- Characters in a row. -/
def literal : Text → Emit
  | [] => fun next nodes => (next, nodes)
  | c :: cs => fun next nodes =>
    let (entry, nodes) := literal cs next nodes
    node (.consume (CharSet.single c) entry) nodes

end Emit

namespace Term

mutual

/-- Lays a term out. -/
def emit : Term → Emit
  | .empty => fun next nodes => (next, nodes)
  | .literal cs => Emit.literal cs
  | .oneOf set => fun next nodes => Emit.node (.consume set next) nodes
  | .look l => fun next nodes => Emit.node (.require l next) nodes
  | .repetition least most greedy body =>
    Emit.repetition least most greedy ((minWidth body).any (0 < ·)) (emit body)
  | .capture _ body => emit body
  | .concat parts => emitSequence parts
  | .choice branches => emitChoice branches

/-- Lays terms out in a row. -/
def emitSequence : List Term → Emit
  | [] => fun next nodes => (next, nodes)
  | t :: ts => fun next nodes =>
    let (entry, nodes) := emitSequence ts next nodes
    emit t entry nodes

/-- Lays terms out as alternatives. -/
def emitChoice : List Term → Emit
  | [] => fun next nodes => Emit.node (.consume CharSet.empty next) nodes
  | [t] => emit t
  | t :: ts => fun next nodes =>
    let (second, nodes) := emitChoice ts next nodes
    let (first, nodes) := emit t next nodes
    Emit.node (.fork first second) nodes

end

/-- The program of a term. -/
def program (t : Term) : Program :=
  let (accept, nodes) := Emit.node .accept #[]
  let (start, nodes) := emit t accept nodes
  ⟨nodes, start⟩

end Term

end TextCursor.Regex
