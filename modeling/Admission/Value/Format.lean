import Admission.Decimal.Fixed
import Admission.Text.Format
import Admission.Value.Display
import Admission.Value.Equality
import Admission.Value.Fault

/-!
# Formatted values

A text with places for values, filled in with a value or with the entries of a map. A value that is
not a map, list or row of bytes has to be used up by the format.

* `Value.format`: the text of a format filled in with a value.
* `Value.formatOctets`: the same for a format in bytes.
-/

namespace Admission.Value

open Text Text.Format

/-- What a format writes: characters, or octets, which are then the characters of their codes. -/
inductive Medium where
  | text
  | octets
  deriving DecidableEq, Repr

/-- The text of a value where a format asks for one. Bytes are shown, not read. -/
def formatText? : Value → Option Text
  | .bytes _ bs => some (quotedOctets bs)
  | v => v.plainText?

/-- Octets as the characters of their codes. -/
def charsOfOctets (bs : List UInt8) : List Point := bs.map fun b => Point.ofNat b.toNat

/-- The integer that a number is cut to. -/
def cutInteger : Value → Except Fault Int
  | .double _ x _ =>
    match Decimal.truncate? x with
    | some n => .ok n
    | none => .error (if x.isNaN then .outOfRange else .overflow)
  | v => orMismatch v.whole?

/-- The float of a number. -/
def realNumber (v : Value) : Except Fault Float :=
  match v.number? with
  | some (.real x) => .ok x
  | some (.whole n) => (Decimal.ofInt? n).elim (.error .overflow) .ok
  | none => .error .mismatch

/-- Letters in upper case. -/
def capitals (cs : List Point) : List Point := cs.map Point.toUpper

/-- An integer in its place, in a base with its mark. -/
def layInteger (s : Spot) (base : Nat) (mark : Point) (n : Int) : List Point :=
  let digits := Nat.toDigits base n.natAbs
  let zeros := Decimal.zeros (s.precision.getD 0 - digits.length)
  let padded : List Point := (zeros ++ digits).map .char
  let mark : List Point := if s.alternate && base != 10 then [.char '0', mark] else []
  if s.letter = some (.char 'X') then s.layNumber (n < 0) (capitals mark) (capitals padded)
  else s.layNumber (n < 0) mark padded

/-- A float in its place. -/
def layReal (s : Spot) (style : Decimal.Style) (capital : Bool) (x : Float) : List Point :=
  let written :=
    match Decimal.parts? x with
    | some p => Decimal.Precise.render ⟨style, s.precision.getD 6, s.alternate⟩ p
    | none => if x.isNaN then "nan".toList else "inf".toList
  let body : List Point := written.map .char
  let negative := match Decimal.parts? x with
    | some p => p.negative
    | none => decide (x < 0)
  s.layNumber negative [] (if capital then capitals body else body)

/-- The character in a value that is one, or its code. -/
def formatChar (m : Medium) (v : Value) : Except Fault Point :=
  match m, v with
  | .text, .text _ s => orMismatch (match s.toList with
    | [c] => some c
    | _ => none)
  | .octets, .bytes _ bs => orMismatch (match bs with
    | [b] => some (Point.ofNat b.toNat)
    | _ => none)
  | _, v =>
    match v.whole? with
    | none => .error .mismatch
    | some n =>
      let most : Int := if m = .text then 0x10FFFF else 255
      if n < 0 ∨ n > most then .error .overflow else .ok (Point.ofNat n.toNat)

/-- A value in its place, written as the letter says. -/
def fillSpot (m : Medium) (s : Spot) (letter : Point) (v : Value) : Except Fault (List Point) :=
  let shownText := fun _ : Unit => do return s.layText (← orMismatch v.shown?).toList
  let asciiText := fun _ : Unit => do return s.layText (escaped (← orMismatch v.shown?)).toList
  match letter, m with
  | 's', .text => do return s.layText (← orMismatch v.formatText?).toList
  | 'r', .text => shownText ()
  | 's', .octets | 'b', .octets =>
    match v with
    | .bytes _ bs => .ok (s.layText (charsOfOctets bs))
    | _ => .error .mismatch
  | 'a', _ | 'r', .octets => asciiText ()
  | 'd', _ | 'i', _ | 'u', _ => do return layInteger s 10 ' ' (← cutInteger v)
  | 'o', _ => do return layInteger s 8 'o' (← orMismatch v.whole?)
  | 'x', _ | 'X', _ => do return layInteger s 16 'x' (← orMismatch v.whole?)
  | 'f', _ => do return layReal s .fixed false (← realNumber v)
  | 'F', _ => do return layReal s .fixed true (← realNumber v)
  | 'e', _ => do return layReal s .exponent false (← realNumber v)
  | 'E', _ => do return layReal s .exponent true (← realNumber v)
  | 'g', _ => do return layReal s .general false (← realNumber v)
  | 'G', _ => do return layReal s .general true (← realNumber v)
  | 'c', _ => do return s.layChar (← formatChar m v)
  | _, _ => .error .outOfRange

/-- Whether a value has entries, so that a format need not use it up. -/
def hasEntries (m : Medium) : Value → Bool
  | .list _ _ | .map _ _ => true
  | .bytes _ _ => m = .text
  | _ => false

/-- The value under a key that a format asks for. -/
def formatEntry (m : Medium) (key : List Point) : Value → Except Fault Value
  | .map _ entries =>
    if m = .octets then .error .mismatch
    else
      match lookup (.text .bare (Text.ofList key)) entries with
      | none => .error .mismatch
      | some none => .error .missingKey
      | some (some v) => .ok v
  | _ => .error .mismatch

/-- The parts of a format filled in. A value serves one place only, be it the given one or one
that was looked up; it comes with whether it is still to be used. -/
def fillPieces (m : Medium) (entries : Value) :
    (current : Value × Bool) → List Piece → Except Fault (List Point)
  | (_, unused), [] => if unused && !hasEntries m entries then .error .mismatch else .ok []
  | current, .char c :: ps => do return c :: (← fillPieces m entries current ps)
  | current, .spot s :: ps => do
    let (v, unused) ← (match s.key with
      | some k => do return (← formatEntry m k entries, true)
      | none => .ok current)
    match s.letter with
    | none => .error .outOfRange
    | some letter =>
      if unused then
        let here ← fillSpot m s letter v
        return here ++ (← fillPieces m entries (v, false) ps)
      else .error .mismatch

/-- **A text filled in with a value.** A typed text without places stays as it is. -/
def format (origin : Origin) (s : Text) (v : Value) : Except Fault Value := do
  let filled ← fillPieces .text v (v, true) (pieces s.toList)
  let same := !s.isEmpty && !s.toList.contains '%'
  return .text (if same then origin else .bare) (Text.ofList filled)

/-- **Bytes filled in with a value.** -/
def formatOctets (bs : List UInt8) (v : Value) : Except Fault Value := do
  let filled ← fillPieces .octets v (v, true) (pieces (charsOfOctets bs))
  return .bytes .bare (filled.map fun c => UInt8.ofNat c.toNat)

end Admission.Value
