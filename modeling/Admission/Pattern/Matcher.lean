import Admission.Pattern.Basic

/-!
# Matching patterns

A pattern is matched from a place of a text on, trying its ways in order: the first way after
which everything that follows matches as well is taken. What follows is a continuation, so the
matcher is structural in the pattern, and a repetition is bounded by the length of the text.

* `Pattern.run`: a pattern and what follows it.
* `Pattern.firstMatch`: the leftmost match from a place on.
* `Pattern.allMatches`: all matches from left to right.
-/

namespace Admission

/-- Whether the character at a place, if there is one, belongs to a class. -/
def Anchor.charIs (s : Array Point) (p : Point → Bool) (i : Nat) : Bool := (s[i]?.map p).getD false

/-- Whether a place has a word on exactly one side. -/
def Anchor.isWordEdge (s : Array Point) (reach : Reach) (pos : Nat) : Bool :=
  let before := pos != 0 && Anchor.charIs s (Shorthand.word.contains reach) (pos - 1)
  let after := Anchor.charIs s (Shorthand.word.contains reach) pos
  before != after

/-- Whether an anchor holds at a place. -/
def Anchor.holds (s : Array Point) (pos : Nat) : Anchor → Bool
  | .textStart => pos == 0
  | .textEnd => pos == s.size
  | .lastLineEnd => pos == s.size || (pos + 1 == s.size && Anchor.charIs s (· == '\n') pos)
  | .lineStart => pos == 0 || Anchor.charIs s (· == '\n') (pos - 1)
  | .lineEnd => pos == s.size || Anchor.charIs s (· == '\n') pos
  | .wordEdge reach => Anchor.isWordEdge s reach pos
  | .noWordEdge reach inEmpty => !Anchor.isWordEdge s reach pos && (inEmpty || s.size != 0)

namespace Pattern

/-- A place in the text, and the extents of the groups that have matched, the last one first. -/
structure Place where
  pos : Nat
  groups : List (Nat × Nat × Nat)
  deriving Repr, Inhabited

/-- What has to match after a pattern; it answers with the place where all of it ends. -/
abbrev Next := Place → Option Place

/-- The extent of a group. -/
def Place.extent? (p : Place) (index : Nat) : Option (Nat × Nat) := p.groups.lookup index

/-- One character of a class. -/
def take (s : Array Point) (p : Point → Bool) (here : Place) (next : Next) : Option Place :=
  match s[here.pos]? with
  | some c => if p c then next { here with pos := here.pos + 1 } else none
  | none => none

/-- Whether the characters from `i` on are those from `j` on up to letter case, `n` of them. Letters
that have different lower cases are not the same here. -/
def sameText (s : Array Point) (fold : Fold) : Nat → Nat → Nat → Bool
  | 0, _, _ => true
  | n + 1, i, j =>
    match s[i]?, s[j]? with
    | some a, some b => fold.lower a == fold.lower b && sameText s fold n (i + 1) (j + 1)
    | _, _ => false

/-- Rounds of a repetition, `done` of them before. Beyond the least number a round starts only
where the one before it did not. The first argument bounds the rounds. -/
def rounds (one : Place → Next → Option Place) (least : Nat) (most : Option Nat) (greedy : Bool) :
    Nat → Nat → Option Nat → Place → Next → Option Place
  | 0, _, _, here, next => next here
  | more + 1, done, last, here, next =>
    if done < least then
      one here fun p => rounds one least most greedy more (done + 1) last p next
    else
      let again := (most.map fun m => decide (done < m)).getD true && last != some here.pos
      let round := fun _ : Unit =>
        if again then
          one here fun p => rounds one least most greedy more (done + 1) (some here.pos) p next
        else none
      if greedy then (round ()).or (next here) else (next here).or (round ())

/-- Rounds of a repetition, `done` of them before, each of which is kept as it first matched. Beyond
the least number a round starts only where the one before it did not. The first argument bounds the
rounds. -/
def keptRounds (one : Place → Option Place) (least : Nat) (most : Option Nat) :
    Nat → Nat → Option Nat → Place → Option Place
  | 0, _, _, here => some here
  | more + 1, done, last, here =>
    if done < least then (one here).bind (keptRounds one least most more (done + 1) last)
    else if (most.map fun m => decide (done < m)).getD true && last != some here.pos then
      match one here with
      | some there => keptRounds one least most more (done + 1) (some here.pos) there
      | none => some here
    else some here

/-- **A pattern and what follows it,** from a place on. -/
def run (s : Array Point) : Pattern → Place → Next → Option Place
  | .empty, here, next => next here
  | .never, _, _ => none
  | .char c fold, here, next => take s (fold.same · c) here next
  | .any breaks, here, next => take s (fun c => breaks || c != '\n') here next
  | .oneOf cs, here, next => take s cs.contains here next
  | .anchor a, here, next => if a.holds s here.pos then next here else none
  | .seq p q, here, next => p.run s here fun there => q.run s there next
  | .alt p q, here, next => (p.run s here next).or (q.run s here next)
  | .loop p least most greed, here, next =>
    let bound := least + (s.size - here.pos) + 2
    match greed with
    | .possessive =>
      (keptRounds (fun there => p.run s there some) least most bound 0 none here).bind next
    | _ =>
      rounds (fun there next => p.run s there next) least most (greed != .lazy) bound 0 none here
        next
  | .group index p, here, next =>
    p.run s here fun there =>
      next { there with groups := (index, here.pos, there.pos) :: there.groups }
  | .reference index fold, here, next =>
    match here.extent? index with
    | none => none
    | some (i, j) =>
      if sameText s fold (j - i) i here.pos then next { here with pos := here.pos + (j - i) }
      else none
  | .ahead negated p, here, next =>
    match p.run s here some with
    | some there => if negated then none else next { there with pos := here.pos }
    | none => if negated then next here else none
  | .behind negated width p, here, next =>
    -- all matches of the pattern have one width, so they start at one place
    let found? :=
      if here.pos < width then none else p.run s { here with pos := here.pos - width } some
    match found? with
    | some there => if negated then none else next { there with pos := here.pos }
    | none => if negated then next here else none
  | .atomic p, here, next => (p.run s here some).bind next
  | .choice index yes no, here, next =>
    if (here.extent? index).isSome then yes.run s here next else no.run s here next

/-- Where a match that starts at a place ends; an empty one may be ruled out. -/
def matchAt (s : Array Point) (p : Pattern) (start : Nat) (nonEmpty : Bool) : Option Nat :=
  (p.run s ⟨start, []⟩ fun there =>
    if nonEmpty && there.pos == start then none else some there).map Place.pos

/-- The extent of the leftmost match that starts at a place or after it. With `nonEmpty` a match
at that place itself must not be empty. -/
def firstMatch (s : Array Point) (p : Pattern) (start : Nat) (nonEmpty : Bool) :
    Option (Nat × Nat) :=
  (List.range (s.size + 1 - start)).findSome? fun k =>
    (matchAt s p (start + k) (nonEmpty && k == 0)).map fun stop => (start + k, stop)

/-- The extents of the matches from a place on, from left to right. After an empty match the next
one at its place is not empty. The first argument bounds their number. -/
def matchesFrom (s : Array Point) (p : Pattern) : Nat → Nat → Bool → List (Nat × Nat)
  | 0, _, _ => []
  | more + 1, start, nonEmpty =>
    match firstMatch s p start nonEmpty with
    | none => []
    | some (i, j) => (i, j) :: matchesFrom s p more j (i == j)

/-- The part of a text between two places. -/
def slice (s : Array Point) (extent : Nat × Nat) : List Point :=
  (s.extract extent.1 extent.2).toList

/-- **All matches** of a pattern in a text, from left to right. -/
def allMatches (p : Pattern) (text : List Point) : List (List Point) :=
  let s := text.toArray
  (matchesFrom s p (2 * s.size + 2) 0 false).map (slice s)

/-- **The leftmost match** of a pattern in a text. -/
def find? (p : Pattern) (text : List Point) : Option (List Point) :=
  let s := text.toArray
  (firstMatch s p 0 false).map (slice s)

end Pattern

end Admission
