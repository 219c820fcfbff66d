import TextCursor.Cursor
import TextCursor.Machine.Event
import TextCursor.Machine.Setup
import TextCursor.Machine.Tape

/-! # The tape machine

    An interpreter of Brainfuck programs that reads its program with a cursor,
    one character at a time, and never compiles it.

    * `[` opens a loop and remembers its own position; the body is skipped when
      the current cell is zero or when an enclosing body is skipped.
    * `]` closes the innermost open loop.  If that body was executed, the cursor
      goes back to the `[`, whose condition is then tested again.
    * While the innermost open loop is skipped, nothing else has an effect.
    * Characters other than the eight instructions are comments.

    A run is a sequence of rounds.  It may go on for ever, so `Run.runFor` takes
    the number of rounds that it may last. -/

namespace TextCursor

/-- An open loop. -/
structure OpenLoop where
  /-- The byte offset of its `[`. -/
  start : Nat
  /-- Whether its body is skipped. -/
  skip : Bool
deriving DecidableEq, Repr

/-- A program with its tape and its open loops, the innermost first. -/
structure Machine where
  program : Text
  setup : MachineSetup
  tape : Tape
  loops : List OpenLoop
deriving DecidableEq, Repr

/-- A machine at work. -/
structure Run where
  machine : Machine
  /-- Where in its program the machine is. -/
  cursor : Cursor
  reader : Reader
  writer : Writer
  log : Array MachineEvent
deriving DecidableEq, Repr

/-- Where a run stands. -/
inductive Outcome where
  | running (run : Run)
  | finished (result : Except MachineError Unit) (run : Run)

namespace Machine

/-- A machine with a blank tape. -/
def ofProgram (program : Text) (setup : MachineSetup) : Machine :=
  ⟨program, setup, Tape.blank setup.cells, []⟩

/-- Whether the innermost open loop is skipped. -/
def isSkipping (m : Machine) : Bool :=
  match m.loops with
  | [] => false
  | innermost :: _ => innermost.skip

/-- Whether the body of a loop that opens now is skipped. -/
def skipsBody (m : Machine) : Checked Bool :=
  if m.isSkipping then .ok true else m.tape.current.map (· == 0)

/-- A run of the machine from the start of its program, on the tape as it stands. -/
def start (m : Machine) (reader : Reader) (writer : Writer) : Run :=
  ⟨{ m with loops := [] }, Cursor.ofText m.program Window.standard, reader, writer, #[]⟩

end Machine

namespace Run

/-- Changes the tape of a run. -/
def onTape (r : Run) (change : Tape → Checked Tape) : Checked Run :=
  match r with
  | ⟨⟨program, setup, tape, loops⟩, cursor, reader, writer, log⟩ => do
    let tape ← change tape
    return ⟨⟨program, setup, tape, loops⟩, cursor, reader, writer, log⟩

/-- Replaces the open loops of a run. -/
def withLoops (r : Run) (loops : List OpenLoop) : Run :=
  { r with machine := { r.machine with loops := loops } }

/-- Adds an event to the log of a run. -/
def report (r : Run) (event : MachineEvent) : Run :=
  { r with log := r.log.push event }

/-- Opens a loop whose `[` has just been read. -/
def enterLoop (r : Run) : Checked Run := do
  let start ← checkedDifference r.cursor.offset 1
  let skip ← r.machine.skipsBody
  return (r.report (.loopStart start skip)).withLoops (⟨start, skip⟩ :: r.machine.loops)

/-- Closes the innermost open loop, whose `]` has just been read. -/
def leaveLoop (r : Run) : Checked (Option MachineError × Run) := do
  match r.machine.loops with
  | [] =>
    let offset ← checkedDifference r.cursor.offset 1
    return (some (.unmatchedLoopEnd offset), r.report (.unmatchedEnd offset))
  | innermost :: loops =>
    let r := r.withLoops loops
    if innermost.skip then return (none, r)
    else
      let (_, cursor) ← r.cursor.moveTo innermost.start
      return (none, { r.report (.loopRewind innermost.start) with cursor := cursor })

/-- Writes the current cell. -/
def writeCell (r : Run) : Checked (Option MachineError × Run) := do
  let b ← r.machine.tape.current
  match r with
  | ⟨machine, cursor, reader, writer, log⟩ =>
    match writer.write b with
    | (.ok (), writer) => return (none, ⟨machine, cursor, reader, writer, log⟩)
    | (.error failure, writer) =>
      return (some (.io failure), ⟨machine, cursor, reader, writer, log⟩)

/-- Reads a byte into the current cell. -/
def readCell (r : Run) : Checked (Option MachineError × Run) := do
  match r.reader.read with
  | (.error failure, reader) => return (some (.io failure), { r with reader := reader })
  | (.ok (some b), reader) => return (none, ← { r with reader := reader }.onTape (·.store b))
  | (.ok none, reader) =>
    let r := { r with reader := reader }
    match r.machine.setup.inputEnd with
    | .zero => return (none, ← r.onTape (·.store 0))
    | .allOnes => return (none, ← r.onTape (·.store 255))
    | .unchanged => return (none, r)

/-- Executes a character that the cursor has just passed. -/
def step (r : Run) (instruction : Char) : Checked (Option MachineError × Run) := do
  match instruction with
  | '[' => return (none, ← r.enterLoop)
  | ']' => r.leaveLoop
  | other =>
    if r.machine.isSkipping then return (none, r)
    else
      match other with
      | '>' => return (none, ← r.onTape Tape.moveRight)
      | '<' => return (none, ← r.onTape Tape.moveLeft)
      | '+' => return (none, ← r.onTape Tape.increment)
      | '-' => return (none, ← r.onTape Tape.decrement)
      | '.' => r.writeCell
      | ',' => r.readCell
      | _ => return (none, r)

/-- Ends a run that has reached the end of its program: loops that are still open are reported
    and ignored, and the output is flushed. -/
def finish (r : Run) : Outcome :=
  let r :=
    if r.machine.loops.isEmpty then r
    else r.report (.endedInside r.machine.loops.length)
  let (result, writer) := r.writer.flush
  .finished (result.mapError .io) { r with writer := writer }

/-- Takes one character of the program, executes it, and ends the run at the end of the text. -/
def round (r : Run) : Checked Outcome := do
  let (passed, cursor) ← r.cursor.take 1
  let r := { r with cursor := cursor }
  let (failure, r) ←
    match passed with
    | [] => pure (none, r)
    | instruction :: _ => r.step instruction
  match failure with
  | some error => return .finished (.error error) r
  | none => return if r.cursor.atEnd then r.finish else .running r

/-- Continues a run for at most so many rounds. -/
def runFor : Nat → Run → Checked Outcome
  | 0, r => .ok (.running r)
  | rounds + 1, r =>
    match r.round with
    | .error fault => .error fault
    | .ok (.running r) => runFor rounds r
    | .ok (.finished result r) => .ok (.finished result r)

end Run

namespace Machine

/-- A run with the standard setup over given input, which keeps all it prints. -/
def collect (program : Text) (input : List UInt8) : Run :=
  (ofProgram program MachineSetup.standard).start (Reader.ofBytes input) Writer.accepting

end Machine

end TextCursor
