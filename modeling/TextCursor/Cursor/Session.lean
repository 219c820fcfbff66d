import TextCursor.Cursor.Command

/-! # Sessions over several cursors

    A session starts with one cursor.  A step gives a command to the current
    cursor, appends a copy of it to the session, or makes another one current. -/

namespace TextCursor

/-- Cursors by index, and which one is current. -/
structure Session where
  cursors : List Cursor
  current : Nat
deriving DecidableEq, Repr

/-- One step of a session. -/
inductive Step where
  /-- A command to the current cursor. -/
  | command (command : Command)
  /-- Appends a copy of the current cursor, and answers with its index. -/
  | copy
  /-- Makes another cursor current. -/
  | choose (index : Nat)

namespace Session

/-- A session over a single cursor. -/
def ofCursor (c : Cursor) : Session :=
  ⟨[c], 0⟩

/-- The cursor at an index. -/
def cursorAt (session : Session) (index : Nat) : Checked Cursor :=
  match session.cursors[index]? with
  | some c => .ok c
  | none => .error .index

/-- Takes one step; what was performed names the cursor that is current afterwards. -/
def perform (session : Session) (step : Step) : Checked (Performed × Session) := do
  let c ← session.cursorAt session.current
  match step with
  | .command command =>
    let p ← c.perform command
    return (p, { session with cursors := session.cursors.set session.current p.cursor })
  | .copy =>
    return (⟨.number session.cursors.length, c, []⟩,
      { session with cursors := session.cursors ++ [c] })
  | .choose index =>
    let chosen ← session.cursorAt index
    return (⟨.nothing, chosen, []⟩, { session with current := index })

end Session

end TextCursor
