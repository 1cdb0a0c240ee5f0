import Admission.Text.CharacterNameTable
import Admission.Text.Range

/-!
# Names of characters

The character that a name names. Most characters have names of their own, which are read in
capitals and small letters alike. The names of ideographs are made of their codes, and those of
Hangul syllables of their sounds; the ones of unified ideographs and syllables are written in
capitals only.

* `characterOfName?`: the character of a name.
-/

namespace Admission.Text

/-! ### Names from tables -/

/-- A name taken apart: its words, the last one first, each from its last letter on. -/
abbrev NameWords := List (List Char)

/-- A name with one more character. -/
def NameWords.add (words : NameWords) (c : Char) : NameWords :=
  if c = ' ' then [] :: words
  else
    match words with
    | w :: ws => (c :: w) :: ws
    | [] => [[c]]

/-- The name that is being read in a row of names, and those behind it. -/
def rowNames (current : NameWords) : List Char → List NameWords
  | [] => [current]
  | c :: cs =>
    if c.isLower then
      current :: rowNames ([] :: current.drop (current.length - (c.toNat - 'a'.toNat))) cs
    else rowNames (current.add c) cs

/-- The code of a name in the tables. -/
def codeInTables? (name : NameWords) : Option Nat :=
  nameTables.findSome? fun table => table.findSome? fun (first, row) =>
    (((rowNames [] (String.join row).toList).drop 1).findIdx? (· == name)).map (first + ·)

/-- The code of a further name. -/
def codeOfAlias? (name : String) : Option Nat :=
  (nameAliases.find? fun (_, names) => names.contains name).map Prod.fst

/-- The code of a variation selector by its short name: those up to 16 and those from 17 on come one
after the other. -/
def selectorCode? : List Char → Option Nat
  | 'V' :: 'S' :: ds =>
    (List.range 256).findSome? fun i =>
      if Nat.toDigits 10 (i + 1) = ds then some (if i < 16 then 0xFE00 + i else 0xE0100 + (i - 16))
      else none
  | _ => none

/-! ### Names made of codes -/

/-- Whether a character is a hexadecimal digit written in capitals. -/
def isCapitalHex (c : Char) : Bool := c.isDigit || ('A' ≤ c && c ≤ 'F')

/-- The number that hexadecimal digits in capitals write. -/
def capitalHex (ds : List Char) : Nat :=
  ds.foldl (fun n c => 16 * n + if c.isDigit then c.toNat - 48 else c.toNat - 55) 0

/-- The codes of the unified ideographs, as closed ranges in order. -/
def unifiedRanges : List (Nat × Nat) :=
  [
    (0x3400, 0x4DBF), (0x4E00, 0x9FFF), (0x20000, 0x2A6DF), (0x2A700, 0x2B738),
    (0x2B740, 0x2B81D), (0x2B820, 0x2CEA1), (0x2CEB0, 0x2EBE0), (0x30000, 0x3134A)
  ]

/-- The code that the digits behind the name of the unified ideographs write, four or five of
them. -/
def unifiedCode? (ds : List Char) : Option Nat :=
  let code := capitalHex ds
  if (ds.length = 4 ∨ ds.length = 5) ∧ ds.all isCapitalHex
      ∧ inRanges unifiedRanges code
  then some code else none

/-- What other characters that are numbered by their codes are called, with closed ranges of
them. -/
def numberedRanges : List (String × List (Nat × Nat)) :=
  [
    ("CJK COMPATIBILITY IDEOGRAPH-", [(0xF900, 0xFA6D), (0xFA70, 0xFAD9), (0x2F800, 0x2FA1D)]),
    ("KHITAN SMALL SCRIPT CHARACTER-", [(0x18B00, 0x18CD5)]),
    ("NUSHU CHARACTER-", [(0x1B170, 0x1B2FB)])
  ]

/-- The code of a character that is numbered by it, without zeros in front. -/
def numberedCode? (name : List Char) : Option Nat :=
  numberedRanges.findSome? fun (lead, ranges) =>
    let ds := name.drop lead.length
    let code := capitalHex ds
    if lead.toList.isPrefixOf name ∧ ds.head? ≠ some '0' ∧ ds.all isCapitalHex
        ∧ inRanges ranges code
    then some code else none

/-! ### Names made of sounds -/

/-- The sounds that a syllable starts with. -/
def leadingSounds : List String :=
  ["G", "GG", "N", "D", "DD", "R", "M", "B", "BB", "S", "SS", "", "J", "JJ", "C", "K", "T", "P",
    "H"]

/-- The vowels of syllables. -/
def vowelSounds : List String :=
  ["A", "AE", "YA", "YAE", "EO", "E", "YEO", "YE", "O", "WA", "WAE", "OE", "YO", "U", "WEO", "WE",
    "WI", "YU", "EU", "YI", "I"]

/-- The sounds that a syllable ends with. -/
def trailingSounds : List String :=
  ["", "G", "GG", "GS", "N", "NJ", "NH", "D", "L", "LG", "LM", "LB", "LS", "LT", "LP", "LH", "M",
    "B", "BS", "S", "SS", "NG", "J", "C", "K", "T", "P", "H"]

/-- The place of the longest of some sounds at the front, and the rest. -/
def soundAt? (sounds : List String) (cs : List Char) : Option (Nat × List Char) :=
  (sounds.zipIdx.foldl (fun best (s, i) =>
    if s.toList.isPrefixOf cs && best.all (fun (t, _) => t.length < s.length) then some (s, i)
    else best) none).map fun (s, i) => (i, cs.drop s.length)

/-- The code of the syllable that sounds write. -/
def syllableCode? (cs : List Char) : Option Nat := do
  let (l, cs) ← soundAt? leadingSounds cs
  let (v, cs) ← soundAt? vowelSounds cs
  let (t, cs) ← soundAt? trailingSounds cs
  if cs = [] then some (0xAC00 + (l * vowelSounds.length + v) * trailingSounds.length + t) else none

/-- The rest of a text behind a longer one that it starts with. -/
def behind? (lead : String) (cs : List Char) : Option (List Char) :=
  if lead.toList.isPrefixOf cs then some (cs.drop lead.length) else none

/-- The code of a name. -/
def codeOfName? (name : List Char) : Option Nat :=
  match behind? "HANGUL SYLLABLE " name, behind? "CJK UNIFIED IDEOGRAPH-" name with
  | some sounds, _ => syllableCode? sounds
  | _, some digits => unifiedCode? digits
  | none, none =>
    let name := name.map Char.toUpper
    (((codeOfAlias? (String.ofList name)).or (selectorCode? name)).or (numberedCode? name)).or
      (codeInTables? (name.foldl NameWords.add [[]]))

/-- **The character of a name.** -/
def characterOfName? (name : List Char) : Option Char := (codeOfName? name).map Char.ofNat

end Admission.Text
