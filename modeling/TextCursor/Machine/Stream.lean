import TextCursor.Text

/-! # Input and output

    A reader and a writer are scripts: what each attempt to read or to write
    will meet, in order.  An interrupted attempt is repeated, which takes the
    next item of the script. -/

namespace TextCursor

/-- Why an attempt to read or write failed. -/
inductive IoFailure where
  /-- Broken off before anything happened. -/
  | interrupted
  /-- The input ended too soon. -/
  | unexpectedEof
  /-- Nothing of a byte was accepted. -/
  | writeZero
  | other (message : Text)
deriving DecidableEq, Repr

/-- The text of a failure. -/
def IoFailure.message : IoFailure → Text
  | .interrupted => "operation interrupted".toList
  | .unexpectedEof => "unexpected end of file".toList
  | .writeZero => "failed to write whole buffer".toList
  | .other message => message

/-- What one attempt to read meets. -/
inductive Delivery where
  | byte (b : UInt8)
  /-- The end of the input, as far as this attempt can tell. -/
  | ended
  | failed (failure : IoFailure)
deriving DecidableEq, Repr

/-- A scripted input; after its last item every attempt meets the end. -/
structure Reader where
  script : List Delivery
deriving DecidableEq, Repr

/-- What one attempt to write meets. -/
inductive Acceptance where
  /-- The byte is accepted. -/
  | accepted
  /-- The attempt succeeds without accepting the byte. -/
  | refused
  | failed (failure : IoFailure)
deriving DecidableEq, Repr

/-- A scripted output; after its last item every byte is accepted. -/
structure Writer where
  script : List Acceptance
  /-- The failure that the final flush meets. -/
  flushFailure : Option IoFailure
  /-- The bytes accepted so far. -/
  accepted : Array UInt8
  /-- The number of flushes so far. -/
  flushes : Nat
deriving DecidableEq, Repr

namespace Reader

/-- Reads one byte of a script; none when the input has ended. -/
def readFrom : List Delivery → Except IoFailure (Option UInt8) × List Delivery
  | [] => (.ok none, [])
  | .byte b :: script => (.ok (some b), script)
  | .ended :: script => (.ok none, script)
  | .failed .interrupted :: script => readFrom script
  | .failed .unexpectedEof :: script => (.ok none, script)
  | .failed failure :: script => (.error failure, script)

/-- Reads one byte; none when the input has ended. -/
def read (r : Reader) : Except IoFailure (Option UInt8) × Reader :=
  let (result, script) := readFrom r.script
  (result, ⟨script⟩)

/-- A reader that delivers bytes and then ends. -/
def ofBytes (bytes : List UInt8) : Reader :=
  ⟨bytes.map .byte⟩

end Reader

namespace Writer

/-- Whether a script accepts a byte. -/
def offerTo : List Acceptance → Except IoFailure Unit × List Acceptance
  | [] => (.ok (), [])
  | .accepted :: script => (.ok (), script)
  | .refused :: script => (.error .writeZero, script)
  | .failed .interrupted :: script => offerTo script
  | .failed failure :: script => (.error failure, script)

/-- Writes one byte. -/
def write (w : Writer) (b : UInt8) : Except IoFailure Unit × Writer :=
  match w with
  | ⟨script, flushFailure, accepted, flushes⟩ =>
    match offerTo script with
    | (.ok (), script) => (.ok (), ⟨script, flushFailure, accepted.push b, flushes⟩)
    | (.error failure, script) => (.error failure, ⟨script, flushFailure, accepted, flushes⟩)

/-- Flushes what was written; a failure is not repeated. -/
def flush (w : Writer) : Except IoFailure Unit × Writer :=
  let flushed := { w with flushes := w.flushes + 1 }
  match w.flushFailure with
  | none => (.ok (), flushed)
  | some failure => (.error failure, flushed)

/-- A writer that follows a script and has accepted nothing yet. -/
def ofScript (script : List Acceptance) (flushFailure : Option IoFailure) : Writer :=
  ⟨script, flushFailure, #[], 0⟩

/-- A writer that accepts everything. -/
def accepting : Writer :=
  ofScript [] none

end Writer

end TextCursor
