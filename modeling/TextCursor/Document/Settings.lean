import TextCursor.Cursor.Window
import TextCursor.Document
import TextCursor.Machine.Setup

/-! # Settings as documents

    A window and a machine setup have two fields each.  They are written as a
    map; they are read from a map, where missing fields take their standard
    values and other names are ignored, or from a sequence that gives the fields
    in order.  Of two bad fields in a map, the one whose name sorts first is
    reported. -/

namespace TextCursor

/-- Why a document holds no settings. -/
inductive SettingsError where
  /-- A value of the wrong shape. -/
  | invalidType (found : Document) (expected : String)
  /-- A value of the right shape that is out of range. -/
  | invalidValue (found : Document) (expected : String)
  /-- A map that should name exactly one behaviour. -/
  | invalidChoice
  /-- A sequence with more elements than there are fields. -/
  | invalidLength (length : Nat)
  /-- A name that is no behaviour's. -/
  | unknownName (name : Text)
deriving Repr

/-- The text of an error. -/
def SettingsError.message : SettingsError → Text
  | .invalidType found expected =>
    "invalid type: ".toList ++ found.describe ++ ", expected ".toList ++ expected.toList
  | .invalidValue found expected =>
    "invalid value: ".toList ++ found.describe ++ ", expected ".toList ++ expected.toList
  | .invalidChoice => "invalid value: map, expected map with a single key".toList
  | .invalidLength n =>
    "invalid length ".toList ++ Text.ofNat n ++ ", expected fewer elements in array".toList
  | .unknownName name =>
    let names := EndOfInput.all.map fun e => ['`'] ++ e.name.toList ++ ['`']
    "unknown variant `".toList ++ name ++ "`, expected one of ".toList ++
      List.intercalate ", ".toList names

namespace Document

/-- A machine word. -/
def readWord : Document → Except SettingsError Nat
  | .integer (.ofNat n) =>
    if n < wordLimit then .ok n else .error (.invalidValue (.integer n) "usize")
  | .integer n => .error (.invalidValue (.integer n) "usize")
  | d => .error (.invalidType d "usize")

/-- The behaviour with a name. -/
def readName (name : Text) : Except SettingsError EndOfInput :=
  match EndOfInput.all.find? fun e => e.name.toList = name with
  | some e => .ok e
  | none => .error (.unknownName name)

/-- What happens at the end of the input: its name, or a map from its name to nothing. -/
def readEndOfInput : Document → Except SettingsError EndOfInput
  | .text name => readName name
  | .map [(name, value)] => do
    let e ← readName name
    match value with
    | .null => return e
    | other => .error (.invalidType other "unit")
  | .map _ => .error .invalidChoice
  | d => .error (.invalidType d "string or map")

/-- A field of a map; its standard value when the map does not name it. -/
def readField {α : Type} (entries : List (Text × Document)) (name : String) (standard : α)
    (read : Document → Except SettingsError α) : Except SettingsError α :=
  match entry? entries name.toList with
  | some d => read d
  | none => .ok standard

/-- An element of a sequence; its standard value when the sequence ends before it. -/
def readElement {α : Type} (items : List Document) (index : Nat) (standard : α)
    (read : Document → Except SettingsError α) : Except SettingsError α :=
  match items[index]? with
  | some d => read d
  | none => .ok standard

/-- Refuses a sequence with more elements than there are fields. -/
def checkLength (items : List Document) (fields : Nat) : Except SettingsError Unit :=
  if items.length ≤ fields then .ok () else .error (.invalidLength items.length)

end Document

namespace Window

/-- The window that a document holds. -/
def ofDocument : Document → Except SettingsError Window
  | .map entries => do
    let lead ← Document.readField entries "snippet_lead" standard.lead Document.readWord
    let width ← Document.readField entries "snippet_width" standard.width Document.readWord
    return ⟨width, lead⟩
  | .sequence items => do
    let width ← Document.readElement items 0 standard.width Document.readWord
    let lead ← Document.readElement items 1 standard.lead Document.readWord
    Document.checkLength items 2
    return ⟨width, lead⟩
  | d => .error (.invalidType d "struct ScannerOptions")

/-- The document that holds a window. -/
def toDocument (w : Window) : Document :=
  .map [("snippet_width".toList, .integer w.width), ("snippet_lead".toList, .integer w.lead)]

end Window

namespace MachineSetup

/-- The setup that a document holds. -/
def ofDocument : Document → Except SettingsError MachineSetup
  | .map entries => do
    let inputEnd ← Document.readField entries "eof" standard.inputEnd Document.readEndOfInput
    let cells ← Document.readField entries "tape_len" standard.cells Document.readWord
    return ⟨cells, inputEnd⟩
  | .sequence items => do
    let cells ← Document.readElement items 0 standard.cells Document.readWord
    let inputEnd ← Document.readElement items 1 standard.inputEnd Document.readEndOfInput
    Document.checkLength items 2
    return ⟨cells, inputEnd⟩
  | d => .error (.invalidType d "struct InterpreterOptions")

/-- The document that holds a setup. -/
def toDocument (s : MachineSetup) : Document :=
  .map [("tape_len".toList, .integer s.cells), ("eof".toList, .text s.inputEnd.name.toList)]

end MachineSetup

end TextCursor
