import Admission.Library.Fault
import Admission.Text.Blank
import Admission.Text.Search

/-!
# Functions of texts

Parts of a text, letters, blanks, replacing, splitting and joining. Positions count characters.
Most of these functions also take rows of bytes and lists, wherever each step is defined on them.

* `charAt`, `substring`: parts by position.
* `replace`, `split`, `join`: by occurrences of another text.
-/

namespace Admission.Library

open Text

/-- The character at a position, the empty text at the end. -/
def charAt (receiver index : Value) : Except Fault Value := do
  let p : Parameter := ⟨.charAt, .index⟩
  let i ← requireInt p index
  let length ← lengthOf receiver
  if i = length then return .ofString ""
  else if i < 0 ∨ i > length then throw (.outside p i)
  else textOf (← orBadCall (receiver.index? (.int .bare i)))

/-- The text from `start` up to `stop`, the end if there is none. -/
def substring (receiver start stop : Value) : Except Fault Value := do
  let s ← requireInt ⟨.substring, .start⟩ start
  let e ← (match stop with
    | .null => (lengthOf receiver).map Int.ofNat
    | stop => requireInt ⟨.substring, .stop⟩ stop)
  -- a negative start is outside whatever the receiver is
  let outside ← if s < 0 then pure true
    else do
      let length ← lengthOf receiver
      pure (decide (s > length ∨ e < 0 ∨ e > length))
  if outside then throw (.outsideRange .substring s e)
  else if s > e then throw (.reversed .substring s e)
  else textOf (← orBadCall (receiver.stretch? s.toNat e.toNat))

/-- A text of one letter between `first` and `last`, with its code moved; other texts stay as they
are. Longer texts that fall between the letters cannot be moved. -/
def shiftLetter (first last : Point) (move : Nat → Nat) (s : Text) : Except Fault Text :=
  if Text.ofList [first] ≤ s ∧ s ≤ Text.ofList [last] then
    match s.toList with
    | [c] => .ok (Text.ofList [Point.ofNat (move c.toNat)])
    | _ => .error .badCall
  else .ok s

/-- Every element of a receiver changed as a text, and the texts joined. -/
def mapTexts (f : Text → Except Fault Text) (receiver : Value) : Except Fault Value := do
  let parts ← (← elementsOf receiver).mapM fun v => do f (← contentsOf v)
  return .ofString (Text.join parts)

/-- The text with the letters A to Z in lower case. -/
def lowerAscii (receiver : Value) : Except Fault Value :=
  mapTexts (shiftLetter 'A' 'Z' (· + 32)) receiver

/-- The text with the letters a to z in upper case. -/
def upperAscii (receiver : Value) : Except Fault Value :=
  mapTexts (shiftLetter 'a' 'z' (· - 32)) receiver

/-- The text without the blanks around it. -/
def trim : Value → Except Fault Value
  | .text _ s => .ok (.ofString (Text.ofList (Text.trim isBlank s.toList)))
  | .bytes _ bs => textOf (.bytes .bare (Text.trim isBlankOctet bs))
  | _ => .error .inapplicable
where
  /-- Whether an octet is one of the blanks of ASCII. -/
  isBlankOctet (b : UInt8) : Bool := b == 32 || (9 ≤ b && b ≤ 13)

/-- A row with `old` replaced by `new` under a limit. An empty `old` occurs before each element
and at the end. -/
def replaceIn {α : Type} [BEq α] (s old new : List α) (limit : Int) : Except Fault (List α) := do
  let n ← times limit (s.length + 1)
  return if old.isEmpty then interleave new n s else substitute old new n s

/-- The number of a field of a date, which has to fit a word of 32 bits. -/
def dateField (v : Value) : Except Fault Int := do
  let n ← orBadCall v.whole?
  if n < -2147483648 ∨ 2147483647 < n then throw .overflow else return n

/-- A timestamp with another date, as a text. -/
def onDate (t : Time.Timestamp) (year month : Value) (day : Int) : Except Fault Value := do
  let y ← dateField year
  let m ← dateField month
  let d ← dateField (.int .bare day)
  let moved := { t with year := y.toNat, month := m.toNat, day := d.toNat }
  if y < 0 ∨ m < 0 ∨ d < 0 ∨ ¬ moved.Exists then throw .badContents
  else textOf (.timestamp moved)

/-- The text with the first occurrences of `old` replaced by `new`, as many as the limit says,
and all of them under a negative limit. In a timestamp, the year and the month are replaced, and
the day by the limit. -/
def replace (receiver old new limit : Value) : Except Fault Value := do
  let n ← requireInt ⟨.replace, .limit⟩ limit
  if n = 0 then textOf receiver
  else
    match receiver, old, new with
    | .text _ s, .text _ old, .text _ new =>
      return .ofString (Text.ofList (← replaceIn s.toList old.toList new.toList n))
    | .bytes _ s, .bytes _ old, .bytes _ new =>
      textOf (.bytes .bare (← replaceIn s old new n))
    | .timestamp t, year, month => onDate t year month (if n > 0 then n else -1)
    | .text _ _, _, _ | .bytes _ _, _, _ => throw .badCall
    | _, _, _ => throw .inapplicable

/-- The elements of a row, of which the last ones are joined to one text where a positive limit
asks for fewer parts. -/
def looseParts (elements : List Value) (limit : Int) : Except Fault (List Value) := do
  if 0 < limit ∧ limit < elements.length then
    let kept := (limit - 1).toNat
    let rest ← (elements.drop kept).mapM contentsOf
    return elements.take kept ++ [.text .bare (Text.join rest)]
  else return elements

/-- How many cuts a limit on the number of parts allows. -/
def cuts (limit : Int) (any : Nat) : Except Fault Nat :=
  times (if limit > 0 then limit - 1 else -1) any

/-- The parts of a receiver between separators, at most as many as a limit that is not zero
says. Without a separator the parts are those between runs of blanks. -/
def parts (receiver separator : Value) (limit : Int) : Except Fault (List Value) := do
  match receiver, separator with
  | receiver, .text o t =>
    if t.isEmpty then looseParts (← elementsOf receiver) limit
    else
      match receiver with
      | .text _ s =>
        let n ← cuts limit s.length
        return (cut t.toList n s.toList).map fun part => .text o (Text.ofList part)
      | .bytes _ _ => throw .badCall
      | _ => throw .inapplicable
  | .text _ s, .null =>
    let n ← cuts limit s.length
    return (runs isBlank n s.toList).map fun part => .text .bare (Text.ofList part)
  | .bytes _ s, .bytes _ t =>
    let n ← cuts limit s.length
    if t.isEmpty then throw .badContents
    else return (cut t n s).map (.bytes .bare)
  | .bytes _ s, .null =>
    let n ← cuts limit s.length
    return (runs trim.isBlankOctet n s).map (.bytes .bare)
  | .text _ _, _ | .bytes _ _, _ => throw .badCall
  | _, _ => throw .inapplicable

/-- The texts between separators, at most as many as the limit says; a negative limit does not
count. The empty separator stands between any two characters. -/
def split (receiver separator limit : Value) : Except Fault Value := do
  let n ← requireInt ⟨.split, .limit⟩ limit
  if n = 0 then return .list .typed []
  else return .list .typed (← (← parts receiver separator n).mapM textOf)

/-- The texts of a list that holds nothing else. -/
def textsOf : List Value → Except Fault (List Text)
  | [] => .ok []
  | .text _ s :: vs => (textsOf vs).map (s :: ·)
  | v :: _ => .error (.notText v.kindOf)

/-- The texts of a list, one after the other with a separator between them. -/
def join (items separator : Value) : Except Fault Value := do
  let texts ← textsOf (← elementsOf items)
  match separator with
  | .text _ s => return .ofString (s.intercalate texts)
  | .bytes _ _ => if texts.isEmpty then return .ofString "" else throw .badCall
  | _ => throw .inapplicable

end Admission.Library
