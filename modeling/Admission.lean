import Admission.Bridge
import Admission.Command.Options
import Admission.Command.Run
import Admission.Datum
import Admission.Decimal.Binary64
import Admission.Decimal.Fixed
import Admission.Decimal.Layout
import Admission.Decimal.Reader
import Admission.Decimal.Remainder
import Admission.Decimal.Shortest
import Admission.Document.Basic
import Admission.Document.Canonical
import Admission.Document.Display
import Admission.Document.Reader
import Admission.Document.Writer
import Admission.Expr.Basic
import Admission.Expr.Context
import Admission.Expr.Eval
import Admission.Expr.Program
import Admission.Expr.Reader
import Admission.Expr.Token
import Admission.Library.Call
import Admission.Library.Collection
import Admission.Library.Fault
import Admission.Library.Search
import Admission.Library.Text
import Admission.Location
import Admission.Main
import Admission.Manifest
import Admission.Pattern.Basic
import Admission.Pattern.Grammar
import Admission.Pattern.Matcher
import Admission.Pattern.Part
import Admission.Pattern.RegularGrammar
import Admission.Rule.Basic
import Admission.Rule.Declaration
import Admission.Schema.Basic
import Admission.Text.Basic
import Admission.Text.Blank
import Admission.Text.Category
import Admission.Text.CharacterName
import Admission.Text.CharacterNameTable
import Admission.Text.Digit
import Admission.Text.Format
import Admission.Text.Identifier
import Admission.Text.LetterCase
import Admission.Text.Numeral
import Admission.Text.Octets
import Admission.Text.Order
import Admission.Text.Printable
import Admission.Text.Quoted
import Admission.Text.Range
import Admission.Text.Script
import Admission.Text.Search
import Admission.Text.Word
import Admission.Time.Calendar
import Admission.Time.Duration
import Admission.Time.Iso
import Admission.Time.Part
import Admission.Time.Timestamp
import Admission.Time.Zone
import Admission.Time.ZoneTable
import Admission.Validator
import Admission.Value.Access
import Admission.Value.Arithmetic
import Admission.Value.Basic
import Admission.Value.BuiltIn
import Admission.Value.Conversion
import Admission.Value.Display
import Admission.Value.Equality
import Admission.Value.Fault
import Admission.Value.Format
import Admission.Value.Function
import Admission.Value.Key
import Admission.Value.Order
import Admission.Proofs.Gather
import Admission.Proofs.Json
import Admission.Proofs.Branch
import Admission.Proofs.Mirror
import Admission.Proofs.Visit
import Admission.Proofs.Coverage
import Admission.Proofs.FloatRange
import Admission.Proofs.Overflow
import Admission.Proofs.Alignment
import Admission.Proofs.Stop
import Admission.Proofs.Agreement
import Admission.Proofs.Alike
import Admission.Proofs.Oblivious
import Admission.Proofs.Creation
import Admission.Proofs.Position
import Admission.Proofs.Entries
import Admission.Proofs.Insertion
import Admission.Proofs.Wording
import Admission.Proofs.Exit
import Admission.Proofs.References
import Admission.Proofs.SharedValue
import Admission.Proofs.Reordering
import Admission.Proofs.Numeral
import Admission.Proofs.DurationText
import Admission.Proofs.DateTimeText
import Admission.Proofs.FormattedText
import Admission.Proofs.AsciiDigit
import Admission.Proofs.Mention
import Admission.Proofs.Transition
import Admission.Proofs.SchemaForm
import Admission.Proofs.Governing
import Admission.Proofs.Lossless
import Admission.Proofs.Answer
import Admission.Proofs.Containment
import Admission.Proofs.Declared
import Admission.Proofs.Consistency
import Admission.Proofs.Message
import Admission.Proofs.Spelling
import Admission.Proofs.Respelling
import Admission.Proofs.Occurrence
import Admission.Proofs.Splitting
import Admission.Proofs.Replacement
import Admission.Proofs.Canonical
import Admission.Proofs.FunctionNames
import Admission.Proofs.IntegerArgument
import Admission.Proofs.Locating
import Admission.Proofs.Receiver
import Admission.Proofs.ExactSum
import Admission.Proofs.SumKind
import Admission.Proofs.Piece
import Admission.Proofs.ItemOrder
import Admission.Proofs.Matches
import Admission.Proofs.NodeByNode
import Admission.Proofs.PathReading
import Admission.Proofs.Extraction
import Admission.Proofs.OutputLine
