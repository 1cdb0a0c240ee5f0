import Admission.Document.Display

/-!
# Manifests

The schema that a manifest of a custom resource declares for one of its versions. Documents of
any other kind are schemas already.

* `Manifest.schema`: the schema of a document.
* `Manifest.Fault`: why a manifest has none.
-/

namespace Admission.Manifest

/-- Why a manifest has no schema. -/
inductive Fault where
  /-- The version of this name declares no schema. -/
  | noSchema (name : Document)
  | noVersions
  | noSuchVersion (name : Text)
  /-- A part of the manifest is of another kind than it has to be. -/
  | badShape
  deriving Inhabited

/-- What is said about a fault; nothing is said about a part of the wrong kind. -/
def Fault.message? : Fault → Option Text
  | .noSchema name => some ("CRD version '" ++ name.plainText ++ "' has no openAPIV3Schema")
  | .noVersions => some "CRD declares no versions"
  | .noSuchVersion name => some ("CRD has no version named '" ++ name ++ "'")
  | .badShape => none

/-- The kind of documents that declare custom resources. -/
def definitionKind : Text := "CustomResourceDefinition"

/-- Whether a document counts as nothing: null, no, zero, or empty. -/
def isNothing : Document → Bool
  | .null => true
  | .bool b => !b
  | .int n => n == 0
  | .float x => x == 0
  | .text s => s.isEmpty
  | .list xs => xs.isEmpty
  | .object ms => ms.isEmpty

/-- The members of a part that has to be an object. A part that is missing or counts as nothing
has none. -/
def membersOf : Option Document → Except Fault (List (Text × Document))
  | none => .ok []
  | some (.object members) => .ok members
  | some d => if isNothing d then .ok [] else .error .badShape

/-- The items of a part that has to be a list. A part that is missing or counts as nothing has
none. -/
def itemsOf : Option Document → Except Fault (List Document)
  | none => .ok []
  | some (.list items) => .ok items
  | some d => if isNothing d then .ok [] else .error .badShape

/-- The schema of a version, given by its members. -/
def versionSchema (version : List (Text × Document)) : Except Fault Document := do
  let schema ← membersOf (version.lookup ("schema" : Text))
  match schema.lookup ("openAPIV3Schema" : Text) with
  | some (.object members) => return .object members
  | _ => throw (.noSchema ((version.lookup ("name" : Text)).getD .null))

/-- Whether a version, given by its members, has a name. -/
def isNamed (name : Text) (version : List (Text × Document)) : Bool :=
  match version.lookup ("name" : Text) with
  | some (.text s) => s == name
  | _ => false

/-- The schema of the version of a name among versions, or of the first one if no name is
given. -/
def schemaAmong (name : Option Text) : List Document → Except Fault Document
  | [] =>
    match name with
    | none => .error .noVersions
    | some name => .error (.noSuchVersion name)
  | .object version :: rest =>
    match name with
    | none => versionSchema version
    | some n => if isNamed n version then versionSchema version else schemaAmong name rest
  | _ :: _ => .error .badShape

/-- **The schema of a document** for the version of a name, or for the first version if no name
is given. A document that declares no custom resource is its own schema. -/
def schema (document : Document) (name : Option Text) : Except Fault Document :=
  match document.member? "kind" with
  | some (.text kind) =>
    if kind = definitionKind then do
      let spec ← membersOf (document.member? "spec")
      schemaAmong name (← itemsOf (spec.lookup ("versions" : Text)))
    else .ok document
  | _ => .ok document

end Admission.Manifest
