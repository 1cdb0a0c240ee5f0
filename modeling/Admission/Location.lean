import Admission.Text.Blank

/-!
# Locations

A location in an object is a row of steps from its root, and its path is their text: names are
joined by points, indices stand in brackets (`spec.containers[1].name`). The root has the empty
path.

* `Step.join`, `pathOf`: the path of a location.
* `joinRelative`: a path continued by a written one.
-/

namespace Admission

/-- One step from a value into a part of it. -/
inductive Step where
  /-- To the value of a key of an object. -/
  | field (name : Text)
  /-- To an item of a list. -/
  | index (i : Nat)
  deriving DecidableEq, Repr

namespace Location

/-- The path of a key under a path. -/
def joinField (base name : Text) : Text := if base = "" then name else base ++ "." ++ name

/-- The path of an index under a path. -/
def joinIndex (base : Text) (index : Int) : Text := base ++ "[" ++ toString index ++ "]"

/-- A path continued by a written one: `.a.b`, `['x.y']` or `a.b`. Blanks around the written
path are dropped; where nothing is left, the path stays as it is. -/
def joinRelative (base relative : Text) : Text :=
  match Text.trim Text.isBlank relative.toList with
  | [] => base
  | '[' :: cs => base ++ Text.ofList ('[' :: cs)
  | '.' :: cs => joinField base (Text.ofList cs)
  | cs => joinField base (Text.ofList cs)

end Location

/-- The path of a step under a path. -/
def Step.join (base : Text) : Step → Text
  | .field name => Location.joinField base name
  | .index i => Location.joinIndex base i

/-- **The path of a location.** -/
def Location.pathOf (steps : List Step) : Text := steps.foldl Step.join ""

end Admission
