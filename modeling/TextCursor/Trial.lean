import TextCursor.Cursor
import TextCursor.Regex
import TextCursor.Trial.Plan

/-! # Trials

    A trial executes a plan on one cursor and checks after each action what a
    cursor promises: that a failed attempt changes nothing, that what is
    consumed stands at the offset and is the latest match, that the offset stays
    within the text and on a boundary.  An expectation that does not hold is a
    fault of the trial. -/

namespace TextCursor.Trial

/-- The expressions that a plan refers to by number. -/
def expressions : List String :=
  ["\\d+", "\\w*", "\\s+", "a|b", "[^;]*", "$", ".", "\u00e9+"]

/-- The matcher of each expression; an expression that does not compile is a fault. -/
def matchersOf (sources : List String) : Checked (List Matcher) :=
  sources.mapM fun source =>
    match PreparedRegex.compile source.toList with
    | .ok r => .ok (Matcher.ofPrepared r)
    | .error _ => .error (.broken "static pattern")

/-- The matcher for what is sought. -/
def Sought.matcher (matchers : List Matcher) : Sought → Checked Matcher
  | .literal t => .ok (Matcher.literal t)
  | .char c => .ok (Matcher.char c)
  | .regex i =>
    if matchers.length = 0 then .error .modulus
    else
      match matchers[i % matchers.length]? with
      | some m => .ok m
      | none => .error .index

/-- Whether a text begins with another one, byte for byte. -/
def startsWith (t front : Text) : Bool :=
  front.bytes.isPrefixOf t.bytes

/-- What an action comes to. -/
structure Executed where
  cursor : Cursor
  events : List AttemptEvent
  /-- Nothing when the action answers with no text; else the text consumed, if any. -/
  consumed : Option (Option Text)

/-- An attempt that answers with the text consumed. -/
def attempt (matchers : List Matcher) (sought : Sought)
    (run : Matcher → Checked Attempt) : Checked Executed := do
  let a ← run (← sought.matcher matchers)
  return ⟨a.cursor, [a.event], some a.consumed⟩

/-- An attempt that answers with a length, which has to lead to the new offset. -/
def attemptLength (matchers : List Matcher) (c : Cursor) (sought : Sought)
    (run : Matcher → Checked Attempt) : Checked Executed := do
  let a ← run (← sought.matcher matchers)
  match a.consumed with
  | some t =>
    let stop ← checkedSum c.offset t.width
    expect (stop == a.cursor.offset) "a skip ends at the offset"
  | none => pure ()
  return ⟨a.cursor, [a.event], none⟩

/-- Executes an action, with the expectations that are its own. -/
def execute (matchers : List Matcher) (c : Cursor) : Action → Checked Executed
  | .scan sought => attempt matchers sought c.scan
  | .scanUntil sought => attempt matchers sought c.scanUntil
  | .check sought => attempt matchers sought c.check
  | .checkUntil sought => attempt matchers sought c.checkUntil
  | .skip sought => attemptLength matchers c sought c.scan
  | .skipUntil sought => attemptLength matchers c sought c.scanUntil
  | .peek length => do
    let before := c.offset
    let peeked ← c.peek length
    expect (c.offset == before) "a peek stays"
    let rest ← c.text.after before
    expect (startsWith rest peeked) "a peek stands at the offset"
    return ⟨c, [], none⟩
  | .take length => do
    let peeked ← c.peek length
    let (taken, c') ← c.take length
    expect (taken == peeked) "a take answers what a peek does"
    let stop ← checkedSum c.offset peeked.width
    expect (c'.offset == stop) "a take passes what it answers"
    return ⟨c', [], none⟩
  | .moveTo position => do
    let (stored, c') ← c.moveTo position
    expect (stored ≤ min position c.text.width) "an offset is rounded down"
    return ⟨c', [], none⟩
  | .charFrom index => do
    match ← c.charFrom index with
    | some d =>
      let rest ← c.text.after index
      expect (startsWith rest [d]) "a character stands at its index"
    | none => pure ()
    return ⟨c, [], none⟩
  | .reset => do
    let c' := c.reset
    expect (c'.offset == 0 && c'.latest == none) "a reset goes back to the start"
    return ⟨c', [], none⟩
  | .terminate => do
    let c' := c.terminate
    expect c'.atEnd "a termination goes to the end"
    return ⟨c', [], none⟩

/-- Executes an action with all expectations. -/
def step (matchers : List Matcher) (c : Cursor) (action : Action) :
    Checked (Cursor × List AttemptEvent) := do
  let e ← execute matchers c action
  match e.consumed with
  | some (some t) =>
    expect (e.cursor.latest == some t) "the latest match is what was consumed"
    let rest ← c.text.after c.offset
    expect (startsWith rest t) "what was consumed stands at the offset"
  | some none =>
    expect (e.cursor.offset == c.offset) "a failed attempt stays"
    expect (e.cursor.latest == c.latest) "a failed attempt keeps the latest match"
  | none => pure ()
  expect (e.cursor.offset ≤ c.text.width) "the offset lies within the text"
  expect (c.text.isBoundary e.cursor.offset) "the offset is a boundary"
  let rest ← e.cursor.rest
  let tail ← c.text.after e.cursor.offset
  expect (rest == tail) "the rest begins at the offset"
  let _ ← e.cursor.summary
  return (e.cursor, e.events)

/-- Executes actions in order and collects the events. -/
def steps (matchers : List Matcher) (c : Cursor) : List Action → Checked (List AttemptEvent)
  | [] => .ok []
  | action :: actions => do
    let (c, events) ← step matchers c action
    return events ++ (← steps matchers c actions)

/-- Executes a plan. -/
def run (plan : Plan) : Checked (List AttemptEvent) := do
  let matchers ← matchersOf expressions
  steps matchers (Cursor.ofText plan.text Window.standard) plan.actions

/-- The result code of a trial over bytes, and the events on the way. -/
def runBytes (bytes : Bytes) : Checked (Nat × List AttemptEvent) := do
  return (0, ← run (Plan.ofBytes bytes))

end TextCursor.Trial
