import Admission.Library.Collection
import Admission.Library.Search
import Admission.Library.Text

/-!
# Calls of extension functions

An extension function applied to the arguments of a call, the receiver first. Arguments at the
end may be left out where a function says what stands for them.

* `Library.apply`: the result of a call.
-/

namespace Admission.Library

/-- The limit that stands for none. -/
def noLimit : Value := .int .typed (-1)

/-- **The result of a call** of an extension function. -/
def apply : Extension → List Value → Except Fault Value
  | .charAt, [text, index] => charAt text index
  | .lowerAscii, [text] => lowerAscii text
  | .upperAscii, [text] => upperAscii text
  | .trim, [text] => trim text
  | .replace, [text, old, new] => replace text old new noLimit
  | .replace, [text, old, new, limit] => replace text old new limit
  | .split, [text, separator] => split text separator noLimit
  | .split, [text, separator, limit] => split text separator limit
  | .substring, [text, start] => substring text start .null
  | .substring, [text, start, stop] => substring text start stop
  | .join, [items] => join items (.ofString "")
  | .join, [items, separator] => join items separator
  | .isSorted, [items] => isSorted items
  | .sum, [items] => sum items
  | .min, [items] => least items
  | .max, [items] => greatest items
  | .slice, [items, start, stop] => slice items start stop
  | .find, [text, pattern] => find text pattern
  | .findAll, [text, pattern] => findAll text pattern noLimit
  | .findAll, [text, pattern, limit] => findAll text pattern limit
  | .indexOf, [receiver, needle] => indexOf receiver needle (.int .typed 0)
  | .indexOf, [receiver, needle, offset] => indexOf receiver needle offset
  | .lastIndexOf, [receiver, needle] => lastIndexOf receiver needle .null
  | .lastIndexOf, [receiver, needle, offset] => lastIndexOf receiver needle offset
  | .reverse, [receiver] => reverse receiver
  | _, _ => .error .badCall

end Admission.Library
