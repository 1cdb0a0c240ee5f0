import Admission.Text.Blank
import Admission.Text.Digit
import Admission.Text.LetterCase
import Admission.Text.Word

/-!
# Patterns

Regular expressions with captured groups, look-around and references to groups, as trees. What
flags say (letter case, line breaks, ASCII classes) is part of the leaves, so a tree needs no
flags beside it.

* `Pattern`: the tree.
* `CharSet.contains`, `Fold.same`: what one character may be.
* `Pattern.width?`: the length of all matches of a pattern, if it is one.
-/

namespace Admission

open Text

/-- Which letters count as the same. -/
inductive Fold where
  | exact
  /-- Upper and lower case of the Latin letters. -/
  | ascii
  /-- Upper and lower case of every script; an i without its point is an i. -/
  | full
  /-- Upper and lower case of every script; an i without its point is a letter of its own, and so is
  the capital with a point. -/
  | apart
  deriving DecidableEq, Repr

/-- Whether a character is the i without its point, or the capital with one. -/
def isTurkic (c : Point) : Bool := c == '\u0130' || c == '\u0131'

/-- Lower case of the Latin letters only. -/
def asciiLower (c : Point) : Point := c.toLower

/-- Whether two characters count as the same. -/
def Fold.same : Fold → Point → Point → Bool
  | .exact, a, b => a == b
  | .ascii, a, b => asciiLower a == asciiLower b
  | .full, a, b => sameLetter a b
  | .apart, a, b => a == b || (!isTurkic a && !isTurkic b && sameLetter a b)

/-- A character that stands for those which are the same by their lower case. -/
def Fold.lower : Fold → Point → Point
  | .exact, c => c
  | .ascii, c => asciiLower c
  | .full, c => toLower c
  | .apart, c => if isTurkic c then c else toLower c

/-- The characters that count as the same as `c`. -/
def Fold.variants : Fold → Point → List Point
  | .exact, c => [c]
  | .ascii, c => [c, c.toLower, c.toUpper]
  | .full, c => letterVariants c
  | .apart, c => if isTurkic c then [c] else (letterVariants c).filter fun x => !isTurkic x

/-- The classes of characters that have a name of one letter. -/
inductive Shorthand where
  | digit | space | word
  deriving DecidableEq, Repr

/-- How far a named class reaches. -/
inductive Reach where
  /-- ASCII only. -/
  | ascii
  /-- Every script. -/
  | full
  deriving DecidableEq, Repr

/-- Whether a character belongs to a named class. -/
def Shorthand.contains (reach : Reach) : Shorthand → Point → Bool
  | .digit, c => if reach = .full then isDecimalDigit c else c.isDigit
  | .space, c => if reach = .full then isBlank c else c == ' ' || ('\t' ≤ c && c ≤ '\r')
  | .word, c => if reach = .full then isWord c else c == '_' || c.isAlphanum

/-- One entry of a set of characters. -/
inductive SetItem where
  | char (c : Point)
  /-- Characters by their codes, both ends included. -/
  | range (lo hi : Nat)
  | named (s : Shorthand) (reach : Reach) (negated : Bool)
  /-- Characters in ranges of codes and those that count as the same, or all but these. -/
  | among (ranges : List (Nat × Nat)) (negated : Bool)
  deriving DecidableEq, Repr

/-- The entry of a code. -/
def SetItem.ofCode (code : Nat) : SetItem := .char (Point.ofNat code)

/-- The code of an entry of a set that is one character. -/
def SetItem.code? : SetItem → Option Nat
  | .char c => some c.toNat
  | .range lo hi => if lo = hi then some lo else none
  | _ => none

/-- Whether a character belongs to an entry. -/
def SetItem.contains (fold : Fold) (c : Point) : SetItem → Bool
  | .char d => fold.same c d
  | .range lo hi => (fold.variants c).any fun x => lo ≤ x.toNat && x.toNat ≤ hi
  | .named s reach negated => s.contains reach c != negated
  | .among ranges negated => (fold.variants c).any (fun x => inRanges ranges x.toNat) != negated

/-- A set of characters, or all characters outside it. -/
structure CharSet where
  negated : Bool
  items : List SetItem
  fold : Fold
  deriving DecidableEq, Repr

/-- Whether a character belongs to a set. -/
def CharSet.contains (s : CharSet) (c : Point) : Bool :=
  s.items.any (SetItem.contains s.fold c) != s.negated

/-- A place in a text. -/
inductive Anchor where
  | textStart
  | textEnd
  /-- The end of the text, or the place before a line break that ends it. -/
  | lastLineEnd
  | lineStart
  | lineEnd
  /-- A place with a word on exactly one side. -/
  | wordEdge (reach : Reach)
  /-- A place with a word on both sides or on neither; it is said whether the empty text has one. -/
  | noWordEdge (reach : Reach) (inEmpty : Bool)
  deriving DecidableEq, Repr

/-- How a repetition chooses between one more round and what follows. -/
inductive Greed where
  /-- One more round first. -/
  | greedy
  /-- What follows first. -/
  | lazy
  /-- As many rounds as there are, without coming back. -/
  | possessive
  deriving DecidableEq, Repr

/-- A regular expression. -/
inductive Pattern where
  | empty
  | never
  | char (c : Point) (fold : Fold)
  /-- Every character, line breaks only if said so. -/
  | any (breaks : Bool)
  | oneOf (s : CharSet)
  | anchor (a : Anchor)
  | seq (p q : Pattern)
  | alt (p q : Pattern)
  | loop (p : Pattern) (least : Nat) (most : Option Nat) (greed : Greed)
  | group (index : Nat) (p : Pattern)
  | reference (index : Nat) (fold : Fold)
  /-- The pattern follows here, or does not; nothing is taken. -/
  | ahead (negated : Bool) (p : Pattern)
  /-- The pattern stands before this place, over `width` characters, or does not. -/
  | behind (negated : Bool) (width : Nat) (p : Pattern)
  /-- The first way to match the pattern, without coming back to it. -/
  | atomic (p : Pattern)
  /-- One pattern if a group has matched, the other one if not. -/
  | choice (index : Nat) (yes no : Pattern)
  deriving Repr, Inhabited

namespace Pattern

/-- The least and greatest length of a match; no greatest one if there is no bound. The widths of
groups are given. -/
def widths (groups : Nat → Nat × Option Nat) : Pattern → Nat × Option Nat
  | .char _ _ | .any _ | .oneOf _ => (1, some 1)
  | .seq p q =>
    let (a, b) := p.widths groups
    let (c, d) := q.widths groups
    (a + c, do return (← b) + (← d))
  | .alt p q | .choice _ p q =>
    let (a, b) := p.widths groups
    let (c, d) := q.widths groups
    (min a c, do return max (← b) (← d))
  | .loop p least most _ =>
    let (a, b) := p.widths groups
    (a * least, match b, most with
      | some 0, _ => some 0
      | some b, some most => some (b * most)
      | _, some 0 => some 0
      | _, _ => none)
  | .group _ p | .atomic p => p.widths groups
  | .reference i _ => groups i
  | _ => (0, some 0)

/-- The length of all matches, if they have one length. -/
def width? (groups : Nat → Nat × Option Nat) (p : Pattern) : Option Nat :=
  let (least, most) := p.widths groups
  if most = some least then some least else none

/-- Whether there is a repetition in a pattern. -/
def hasLoop : Pattern → Bool
  | .loop _ _ _ _ => true
  | .seq p q | .alt p q | .choice _ p q => p.hasLoop || q.hasLoop
  | .group _ p | .ahead _ p | .behind _ _ p | .atomic p => p.hasLoop
  | _ => false

/-- A row of patterns as one. -/
def ofList : List Pattern → Pattern
  | [] => .empty
  | [p] => p
  | p :: ps => .seq p (ofList ps)

end Pattern

end Admission
