import Admission.Text.Printable

/-!
# Quoted texts

How a text is shown inside a message: between single quotes, or between double quotes if it
holds a single quote and no double one. The quote in use, the backslash and everything that is
not printable is written as an escape.

* `quoted`: the quoted form of a text.
* `escaped`: a text in which only the characters of ASCII are left.
* `hexPadded`: a number in lower-case hexadecimal of a least width.
-/

namespace Admission.Text

/-- A number in lower-case hexadecimal with at least `width` digits. -/
def hexPadded (width n : Nat) : List Point :=
  let digits := Nat.toDigits 16 n
  (List.replicate (width - digits.length) '0' ++ digits).map .char

/-- A character as the escape of its code. -/
def codeEscape (c : Point) : List Point :=
  if c.toNat < 0x100 then '\\' :: 'x' :: hexPadded 2 c.toNat
  else if c.toNat < 0x10000 then '\\' :: 'u' :: hexPadded 4 c.toNat
  else '\\' :: 'U' :: hexPadded 8 c.toNat

/-- A character inside quotes of the kind `quote`. -/
def quotedChar (quote c : Point) : List Point :=
  if c = quote ∨ c = '\\' then ['\\', c]
  else if c = '\n' then ['\\', 'n']
  else if c = '\r' then ['\\', 'r']
  else if c = '\t' then ['\\', 't']
  else if isPrintable c then [c]
  else codeEscape c

/-- A text in which every character beyond ASCII is written as an escape. -/
def escaped (s : Text) : Text :=
  Text.ofList (s.toList.flatMap fun c => if c.toNat < 0x80 then [c] else codeEscape c)

/-- The quote that a text is shown in. -/
def quoteFor (cs : List Point) : Point :=
  if cs.contains '\x27' && !cs.contains '\x22' then '\x22' else '\x27'

/-- The quoted form of a text. -/
def quoted (s : Text) : Text :=
  let cs := s.toList
  let q := quoteFor cs
  Text.ofList (q :: cs.flatMap (quotedChar q) ++ [q])

end Admission.Text
