import Admission.Command.Options
import Admission.Document.Canonical
import Admission.Document.Reader
import Admission.Manifest
import Admission.Text.Search
import Admission.Validator

/-!
# Running a command

The outcome of a command line, given what the files that it names hold: rows on the two outputs
and an exit status, which is 0 for an object without violations, 1 for one with violations and 2
where no validation took place. A row is printed if the encoding of the output has all its code
points, and breaks the run off else: UTF-8 has no half of a surrogate pair.

* `Command.run`: the outcome of a request.
* `Command.normalPath`: the path of a file as it is opened and named.
* `Outcome`, `Outcome.status`: what a run leaves behind, and its exit status.
* `Environment.print`: the outcome of printing rows.
-/

namespace Admission.Command

/-- What reading a file gives. -/
inductive FileRead where
  | text (s : Text)
  /-- There is a file, but no text in UTF-8, and this is what the decoder says about it. -/
  | notText (detail : Text)
  | missing
  /-- There is something that is not a readable file. -/
  | unreadable
  deriving DecidableEq, Repr

/-- What the files of a command line hold, by their normal paths. -/
abbrev Files := Text → FileRead

/-- What a run finds around it. -/
structure Environment where
  files : Files
  host : Host
  /-- What the reader of JSON says about a text that is not JSON. -/
  complaint : Text → Text
  /-- The code points that the encoding of the output has. -/
  output : Point → Bool
  /-- The code points that the encoding of the error output has. -/
  errorOutput : Point → Bool

/-- The parts of a path. -/
def pathParts (path : Text) : List Text :=
  (Text.cut [.char '/'] path.length path.toList).map Text.ofList

/-- A path without empty parts and parts that stay where they are. -/
def normalPath (path : Text) : Text :=
  let root : Text := if [Point.char '/'].isPrefixOf path.toList then "/" else ""
  let parts := (pathParts path).filter fun part : Text => part != "" && part != "."
  let whole := root ++ Text.intercalate "/" parts
  if whole = "" then "." else whole

/-- Why there is no document to validate, or no outcome of its validation. -/
inductive Fault where
  | missing (path : Text)
  | unreadable
  | notText (detail : Text)
  | json (text : Text) (f : Document.ReadFault)
  | manifest (f : Manifest.Fault)
  /-- The validation stops. -/
  | validation (f : Bridge.Fault)
  /-- The encoding of the output lacks a code point of a row. -/
  | unprintable (row : Text)

/-- What is said about a fault that ends a run in order; nothing is said about the others. -/
def Fault.message? (e : Environment) : Fault → Option Text
  | .missing path => some ("[Errno 2] No such file or directory: " ++ Text.quoted path)
  | .notText detail => some detail
  | .json text .malformed => some ("invalid JSON: " ++ e.complaint text)
  | .json _ (.tooManyDigits n) =>
    some ("Exceeds the limit (" ++ toString Text.digitLimit ++
      " digits) for integer string conversion: value has " ++ toString n ++
      " digits; use sys.set_int_max_str_digits() to increase the limit")
  | .manifest f => f.message?
  | .unreadable | .validation _ | .unprintable _ => none

/-- What a run leaves behind. -/
inductive Outcome where
  /-- The help text, and an exit status. -/
  | help (exit : Nat)
  | version
  /-- The command line does not fit; the exit status is 2. -/
  | misuse
  /-- Lines on the output and on the error output, and an exit status. -/
  | done (exit : Nat) (output errors : List Text)
  /-- The run breaks off behind lines on the output. -/
  | crash (output : List Text) (f : Fault)

/-- The exit status of a run. A run that breaks off has the one of an object with violations. -/
def Outcome.status : Outcome → Nat
  | .help exit | .done exit _ _ => exit
  | .version => 0
  | .misuse => 2
  | .crash _ _ => 1

/-- The document in a file. -/
def load (files : Files) (path : Text) : Except Fault Document :=
  let path := normalPath path
  match files path with
  | .missing => .error (.missing path)
  | .unreadable => .error .unreadable
  | .notText detail => .error (.notText detail)
  | .text s => (Document.read s).mapError (.json s)

/-- What a validation is about. -/
structure Inputs where
  schema : Document
  object : Document
  old : Option Document

/-- The inputs of a validation: the schema first, then the object and the old object. -/
def inputs (files : Files) (o : Options) : Except Fault Inputs := do
  let manifest ← load files o.schema
  let schema ← (Manifest.schema manifest o.crdVersion).mapError .manifest
  let object ← load files o.object
  let old ← o.oldObject.mapM (load files)
  return { schema, object, old }

/-- The violations of the inputs of a validation, under all extension functions. -/
def violations (host : Host) (i : Inputs) : Except Fault (List Violation) :=
  (Validator.validate (.standard host) i.schema (.ofDocument i.object)
    (i.old.map .ofDocument)).mapError .validation

/-- A violation as a document. -/
def violationDocument (v : Violation) : Document :=
  .object [("field_path", .text v.fieldPath), ("message", .text v.message),
    ("reason", (v.reason.map .text).getD .null), ("rule", .text v.rule)]

/-- The line of a violation. -/
def violationLine (v : Violation) : Text := "[" ++ v.fieldPath ++ "] " ++ v.message

/-- The line that says how a validation ended. -/
def statusLine (vs : List Violation) : Text :=
  if vs.isEmpty then "Status: OK" else "Status: FAILED (" ++ toString vs.length ++ " errors)"

/-- What is printed about the violations of an object: one canonical text for all, or one line for
each and a status line unless it is not wanted. -/
def report (o : Options) (vs : List Violation) : List Text :=
  if o.json then [(Document.list (vs.map violationDocument)).canonical]
  else vs.map violationLine ++ if o.quiet then [] else [statusLine vs]

/-- A line as the error output has it: code points that its encoding lacks are written as
escapes. -/
def Environment.errorLine (e : Environment) (line : Text) : Text :=
  Text.ofList (line.toList.flatMap fun c => if e.errorOutput c then [c] else Text.codeEscape c)

/-- The outcome of a run that ends with a fault. -/
def Outcome.ofFault (e : Environment) (f : Fault) : Outcome :=
  match f.message? e with
  | some m => .done 2 [] [e.errorLine ("Error: " ++ m)]
  | none => .crash [] f

/-- Whether the encoding of the output has all code points of a row. -/
def Environment.prints (e : Environment) (row : Text) : Bool := row.toList.all e.output

/-- The outcome of printing rows one after the other, with an exit status for the end. -/
def Environment.print (e : Environment) (exit : Nat) (rows : List Text) : Outcome :=
  match rows.dropWhile e.prints with
  | [] => .done exit rows []
  | row :: _ => .crash (rows.takeWhile e.prints) (.unprintable row)

/-- The outcome of a validation. -/
def validate (e : Environment) (o : Options) : Outcome :=
  match inputs e.files o with
  | .error f => .ofFault e f
  | .ok i =>
    match violations e.host i with
    | .error f => .ofFault e f
    | .ok vs => e.print (if vs.isEmpty then 0 else 1) (report o vs)

/-- **The outcome of a request.** -/
def run (e : Environment) : Request → Outcome
  | .help => .help 0
  | .nothing => .help 2
  | .version => .version
  | .misuse => .misuse
  | .validate o => validate e o

/-- The paths of the files that a request names. -/
def Request.paths : Request → List Text
  | .validate o => ([o.schema, o.object] ++ o.oldObject.toList).map normalPath
  | _ => []

end Admission.Command
