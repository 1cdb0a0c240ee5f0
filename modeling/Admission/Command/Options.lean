import Admission.Text.Basic

/-!
# Command lines

What a command line asks for. Options start with two hyphens; the first letters of an option are
enough where they fit no other one, and a value stands behind the option or behind an equals sign.
Everything that does not fit is a usage error, but a request for help counts from where it stands.

* `Request.ofArgs`: what a command line asks for.
* `Options`: the options of a validation.
-/

namespace Admission.Command

/-- The options that there are. -/
inductive Name where
  | help | version
  | quiet | verbose | json
  | schema | crdVersion | object | oldObject
  deriving DecidableEq, Repr

/-- Whether an option has a value. -/
def Name.hasValue : Name → Bool
  | .schema | .crdVersion | .object | .oldObject => true
  | _ => false

/-- The options in front of the command. -/
def globalNames : List (Text × Name) :=
  [("-h", .help), ("--help", .help), ("--version", .version)]

/-- The options of the command. -/
def commandNames : List (Text × Name) :=
  [("-h", .help), ("--help", .help), ("--quiet", .quiet), ("--verbose", .verbose),
    ("--schema", .schema), ("--crd-version", .crdVersion), ("--object", .object),
    ("--old-object", .oldObject), ("--json", .json)]

/-- What an argument is by its form. -/
inductive Argument where
  | option (name : Name) (value : Option Text)
  /-- The first letters of several options. -/
  | ambiguous
  /-- An option that there is not. -/
  | unknown
  | plain
  /-- The two hyphens behind which no options stand. -/
  | separator
  deriving DecidableEq, Repr

/-- The part before the first equals sign, and the part behind it if there is one. -/
def splitValue (arg : List Point) : List Point × Option (List Point) :=
  match arg.dropWhile fun c : Point => c != '=' with
  | _ :: value => (arg.takeWhile fun c => c != '=', some value)
  | [] => (arg, none)

/-- Whether an argument is a negative number. -/
def isNegative : List Point → Bool
  | '-' :: cs =>
    let whole := cs.takeWhile Point.isDigit
    match cs.dropWhile Point.isDigit with
    | [] => !whole.isEmpty
    | '.' :: fraction => !fraction.isEmpty && fraction.all Point.isDigit
    | _ => false
  | _ => false

/-- What an argument is among given options. -/
def Argument.of (names : List (Text × Name)) (arg : Text) : Argument :=
  let cs := arg.toList
  if arg = "--" then .separator
  else if !([Point.char '-'].isPrefixOf cs) || arg = "-" then .plain
  else
    match names.lookup arg with
    | some name => .option name none
    | none =>
      let (start, value) := splitValue cs
      if [Point.char '-', Point.char '-'].isPrefixOf cs then
        match names.lookup (Text.ofList start) with
        | some name => .option name (value.map Text.ofList)
        | none =>
          match names.filter fun (name, _) => start.isPrefixOf name.toList with
          | [(_, name)] => .option name (value.map Text.ofList)
          | _ :: _ :: _ => .ambiguous
          | [] => if cs.contains ' ' then .plain else .unknown
      else
        match names.lookup (Text.ofList (cs.take 2)), cs.drop 2 with
        | some name, '=' :: value => .option name (some (Text.ofList value))
        -- other letters behind a short option are not looked at
        | some name, _ => .option name none
        | none, _ => if isNegative cs || cs.contains ' ' then .plain else .unknown

/-- The options of a validation. -/
structure Options where
  schema : Text
  object : Text
  oldObject : Option Text := none
  crdVersion : Option Text := none
  json : Bool := false
  quiet : Bool := false
  verbose : Bool := false
  deriving DecidableEq, Repr

/-- What a command line asks for. -/
inductive Request where
  | help
  | version
  /-- The command line does not fit. -/
  | misuse
  /-- There is no command. -/
  | nothing
  | validate (o : Options)
  deriving DecidableEq, Repr

/-- The options of a validation that were read so far, and whether all arguments fit. -/
structure Draft where
  schema : Option Text := none
  object : Option Text := none
  oldObject : Option Text := none
  crdVersion : Option Text := none
  json : Bool := false
  quiet : Bool := false
  verbose : Bool := false
  fits : Bool := true
  deriving DecidableEq, Repr

namespace Draft

/-- The draft with a flag set. -/
def flag (d : Draft) : Name → Draft
  | .quiet => { d with quiet := true }
  | .verbose => { d with verbose := true }
  | .json => { d with json := true }
  | _ => d

/-- The draft with the value of an option. -/
def withValue (d : Draft) (name : Name) (value : Text) : Draft :=
  match name with
  | .schema => { d with schema := some value }
  | .crdVersion => { d with crdVersion := some value }
  | .object => { d with object := some value }
  | .oldObject => { d with oldObject := some value }
  | _ => d

/-- The request of a draft: the schema and the object have to be there, and everything has to
fit. -/
def request (d : Draft) : Request :=
  match d.schema, d.object with
  | some schema, some object =>
    if d.fits then
      .validate { d with schema, object }
    else .misuse
  | _, _ => .misuse

/-- The request of the arguments of the command, behind a draft. -/
def read (d : Draft) : List Text → Request
  | [] => d.request
  | arg :: rest =>
    match Argument.of commandNames arg with
    | .ambiguous => .misuse
    | .separator => { d with fits := false }.request
    | .plain | .unknown => read { d with fits := false } rest
    | .option name (some value) =>
      if name.hasValue then read (d.withValue name value) rest else .misuse
    | .option name none =>
      if name = .help then .help
      else if !name.hasValue then read (d.flag name) rest
      else
        match rest with
        | [] => .misuse
        | value :: rest =>
          if Argument.of commandNames value = .plain then read (d.withValue name value) rest
          else .misuse

end Draft

/-- The arguments in front of the two hyphens behind which no options stand. -/
def optionPart (args : List Text) : List Text := args.takeWhile (· != "--")

/-- Whether some argument is the start of several options. -/
def isAmbiguous (names : List (Text × Name)) (args : List Text) : Bool :=
  (optionPart args).any fun arg => Argument.of names arg = .ambiguous

/-- The request of the arguments of the command. -/
def ofCommandArgs (fits : Bool) (args : List Text) : Request :=
  if isAmbiguous commandNames args then .misuse else Draft.read { fits := fits } args

/-- The request of a command line from an argument in front of the command on. -/
def ofGlobalArgs (fits : Bool) : List Text → Request
  | [] => if fits then .nothing else .misuse
  | arg :: rest =>
    match Argument.of globalNames arg with
    | .ambiguous | .separator => .misuse
    | .plain => if arg = "validate" then ofCommandArgs fits rest else .misuse
    | .unknown => ofGlobalArgs false rest
    | .option _ (some _) => .misuse
    | .option .version none => .version
    | .option _ none => .help

/-- **What a command line asks for.** -/
def Request.ofArgs (args : List Text) : Request :=
  if isAmbiguous globalNames args then .misuse else ofGlobalArgs true args

end Admission.Command
