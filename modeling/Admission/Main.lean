import Admission.Command.Run

/-!
# The command

Reads the files that a command line names, runs the request and prints its outcome.
-/

namespace Admission.Command

/-- What the command can do. -/
def helpText : String :=
  "usage: admission validate --schema FILE --object FILE [--old-object FILE]\n" ++
  "                          [--crd-version NAME] [--json] [--quiet] [--verbose]\n\n" ++
  "Checks an object against the validation rules of a schema or of a manifest\n" ++
  "that declares one. With an old object, rules about changes are checked too."

/-- A text without the halves of surrogate pairs in it. -/
def characters (t : Text) : String := String.ofList (t.toList.filterMap Point.char?)

/-- What reading the file at a path gives. -/
def readFile (path : Text) : IO FileRead := do
  try
    let octets ← IO.FS.readBinFile (characters path)
    return (String.fromUTF8? octets).elim (.notText "not a text in UTF-8") (.text ·)
  catch
    | .noFileOrDirectory .. => return .missing
    | _ => return .unreadable

/-- Prints an outcome. -/
def Outcome.print : Outcome → IO Unit
  | .help _ => IO.println helpText
  | .version => IO.println "admission"
  | .misuse => IO.eprintln helpText
  | .done _ output errors => do
    output.forM fun row => IO.println (characters row)
    errors.forM fun row => IO.eprintln (characters row)
  | .crash output _ => do
    output.forM fun row => IO.println (characters row)
    IO.eprintln "The run broke off."

end Admission.Command

open Admission Command in
/-- Runs the command line. -/
def main (args : List String) : IO UInt32 := do
  let request := Request.ofArgs (args.map .plain)
  let contents ← request.paths.mapM fun path => do return (path, ← readFile path)
  let outcome := run {
    files := fun path => (contents.lookup path).getD .missing
    host := .bare
    complaint := fun _ => "not a JSON text"
    output := fun c => c.char?.isSome
    errorOutput := fun c => c.char?.isSome } request
  outcome.print
  return UInt32.ofNat outcome.status
