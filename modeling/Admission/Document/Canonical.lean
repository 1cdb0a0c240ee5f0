import Admission.Document.Writer

/-!
# Canonical text

One text for all documents that are equal up to the order of object keys: the keys of every
object are written in the order of their code points.

* `Document.sortKeys`: a document with sorted keys at every depth.
* `Document.canonical`: its text.
-/

namespace Admission.Document

/-- A member put into its place among members in the order of their keys. -/
def insertSorted (m : Text × Document) : List (Text × Document) → List (Text × Document)
  | [] => [m]
  | m' :: rest => if m.1 < m'.1 then m :: m' :: rest else m' :: insertSorted m rest

mutual

/-- The document with the keys of every object in the order of their code points. -/
def sortKeys : Document → Document
  | .list xs => .list (sortItems xs)
  | .object ms => .object (sortMembers ms)
  | d => d

/-- The items of a list, each with sorted keys. -/
def sortItems : List Document → List Document
  | [] => []
  | x :: xs => sortKeys x :: sortItems xs

/-- Members in the order of their keys, each value with sorted keys. -/
def sortMembers : List (Text × Document) → List (Text × Document)
  | [] => []
  | (k, v) :: ms => insertSorted (k, sortKeys v) (sortMembers ms)

end

/-- **The canonical text of a document.** -/
def canonical (d : Document) : Text := d.sortKeys.write

end Admission.Document
