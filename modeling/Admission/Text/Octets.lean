import Admission.Text.Quoted

/-!
# Octets

Texts as rows of octets in UTF-8, and how a row of octets is shown.

* `encode?`, `decode?`: a text as octets, and back.
* `quotedOctets`: a row of octets between quotes.
-/

namespace Admission.Text

/-- The octets of a text in UTF-8. Halves of surrogate pairs have none. -/
def encode? : Text → Option (List UInt8)
  | .plain s => some s.toUTF8.toList
  | .half _ _ _ => none

/-- The text that a row of octets encodes, if it is well-formed UTF-8. -/
def decode? (octets : List UInt8) : Option Text :=
  (String.fromUTF8? ⟨octets.toArray⟩).map .plain

/-- Two hexadecimal digits for an octet. -/
def hexOctet (b : UInt8) : List Point := hexPadded 2 b.toNat

/-- An octet inside quotes: the printable part of ASCII as characters, all else escaped. -/
def quotedOctet (quote : Point) (b : UInt8) : List Point :=
  if 0x7F ≤ b.toNat then '\\' :: 'x' :: hexOctet b
  else quotedChar quote (Point.ofNat b.toNat)

/-- A row of octets between quotes, marked as such. -/
def quotedOctets (octets : List UInt8) : Text :=
  let q := quoteFor (octets.map fun b => Point.ofNat b.toNat)
  Text.ofList (.char 'b' :: q :: octets.flatMap (quotedOctet q) ++ [q])

end Admission.Text
