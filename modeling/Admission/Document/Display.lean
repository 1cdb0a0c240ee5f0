import Admission.Decimal.Layout
import Admission.Document.Basic
import Admission.Text.Quoted

/-!
# Documents inside messages

How a document is named in a message. A text stands for itself, and inside lists and objects it
stands between quotes.

* `Document.plainText`: the text of a document.
-/

namespace Admission.Document

open Admission.Text

/-- The format of floats in messages. -/
def messageLayout : Decimal.Layout where
  infinity := "inf"
  notANumber := "nan"

mutual

/-- A document as part of a longer text. -/
def shown : Document → Text
  | .null => "None"
  | .bool b => if b then "True" else "False"
  | .int n => toString n
  | .float x => messageLayout.render x
  | .text s => quoted s
  | .list xs => "[" ++ Text.intercalate ", " (shownItems xs) ++ "]"
  | .object ms => "\x7b" ++ Text.intercalate ", " (shownMembers ms) ++ "\x7d"

/-- The items of a list as parts of a longer text. -/
def shownItems : List Document → List Text
  | [] => []
  | x :: xs => shown x :: shownItems xs

/-- The members of an object as parts of a longer text. -/
def shownMembers : List (Text × Document) → List Text
  | [] => []
  | (k, v) :: ms => (quoted k ++ ": " ++ shown v) :: shownMembers ms

end

/-- The text of a document on its own. -/
def plainText : Document → Text
  | .text s => s
  | d => d.shown

end Admission.Document
