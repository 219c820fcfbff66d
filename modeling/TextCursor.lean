import TextCursor.CharSet
import TextCursor.CharSet.ByteForm
import TextCursor.Cursor
import TextCursor.Cursor.Command
import TextCursor.Cursor.Event
import TextCursor.Cursor.Session
import TextCursor.Cursor.Window
import TextCursor.Document
import TextCursor.Document.Decimal
import TextCursor.Document.Settings
import TextCursor.Fault
import TextCursor.Log
import TextCursor.Machine
import TextCursor.Machine.Event
import TextCursor.Machine.Setup
import TextCursor.Machine.Stream
import TextCursor.Machine.Tape
import TextCursor.Matcher
import TextCursor.Regex
import TextCursor.Regex.Diagram
import TextCursor.Regex.Look
import TextCursor.Regex.Mistake
import TextCursor.Regex.Phrase
import TextCursor.Regex.Phrase.Bracket
import TextCursor.Regex.Phrase.Depth
import TextCursor.Regex.Phrase.Escape
import TextCursor.Regex.Phrase.Expression
import TextCursor.Regex.Phrase.Reading
import TextCursor.Regex.Program
import TextCursor.Regex.Program.OfTerm
import TextCursor.Regex.Search
import TextCursor.Regex.Term
import TextCursor.Regex.Term.OfPhrase
import TextCursor.Regex.Term.Size
import TextCursor.Text
import TextCursor.Text.Quoted
import TextCursor.Trial
import TextCursor.Trial.Bytes
import TextCursor.Trial.Plan
import TextCursor.Unicode.Age
import TextCursor.Unicode.Break
import TextCursor.Unicode.Casing
import TextCursor.Unicode.Category
import TextCursor.Unicode.Folding
import TextCursor.Unicode.Letter
import TextCursor.Unicode.Property
import TextCursor.Unicode.Script
import TextCursor.Unicode.Symbol
import TextCursor.Proofs.Boundaries
import TextCursor.Proofs.CursorSafety
import TextCursor.Proofs.TrialSafety
import TextCursor.Proofs.IllFormedSpans
import TextCursor.Proofs.Remainders
import TextCursor.Proofs.Conservation
import TextCursor.Proofs.Rewinding
import TextCursor.Proofs.AnchoredSearch
import TextCursor.Proofs.Occurrences
import TextCursor.Proofs.MatcherContracts
import TextCursor.Proofs.Brackets
import TextCursor.Proofs.Worlds
import TextCursor.Proofs.Rounds
import TextCursor.Proofs.JumpMachine
import TextCursor.Proofs.JumpSimulation
import TextCursor.Proofs.Outputs
import TextCursor.Proofs.JumpSteps
import TextCursor.Proofs.Relocation
import TextCursor.Proofs.Fates
import TextCursor.Proofs.Composition
import TextCursor.Proofs.SkippedLoops
import TextCursor.Proofs.OngoingRuns
import TextCursor.Proofs.IoFailures
import TextCursor.Proofs.TransientIo
import TextCursor.Proofs.Comments
import TextCursor.Proofs.MatchModes
import TextCursor.Proofs.MatchHistory
import TextCursor.Proofs.TapeSafety
import TextCursor.Proofs.LoopReports
import TextCursor.Proofs.FirstHits
import TextCursor.Proofs.Characters
import TextCursor.Proofs.Progress
import TextCursor.Proofs.Windows
import TextCursor.Proofs.Insertions
import TextCursor.Proofs.TapeRing
import TextCursor.Proofs.Cancellation
import TextCursor.Proofs.TapeLayouts
import TextCursor.Proofs.Rotations
import TextCursor.Proofs.TapeLengths
import TextCursor.Proofs.NearestBoundaries
import TextCursor.Proofs.SettingsFields
import TextCursor.Proofs.OngoingParts
