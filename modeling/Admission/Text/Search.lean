/-!
# Searching and cutting lists

Occurrences of one list in another, for texts (lists of characters) and octets alike. A search
answers with a place, a cut takes at most a given number of separators, a substitution replaces
at most a given number of occurrences, from the left and without overlap.

* `firstIndex?`, `lastIndex?`: the least and the greatest place of an occurrence.
* `cut`: the parts between separators.
* `substitute`, `interleave`: occurrences replaced by another list; a list put between elements.
-/

namespace Admission.Text

variable {α : Type} [BEq α]

/-- The least place at which `x` occurs. -/
def firstIndex? (x : List α) : List α → Option Nat
  | [] => if x.isEmpty then some 0 else none
  | c :: s => if x.isPrefixOf (c :: s) then some 0 else (firstIndex? x s).map (· + 1)

/-- The greatest place at which `x` occurs. -/
def lastIndex? (x : List α) : List α → Option Nat
  | [] => if x.isEmpty then some 0 else none
  | c :: s =>
    match lastIndex? x s with
    | some i => some (i + 1)
    | none => if x.isPrefixOf (c :: s) then some 0 else none

/-- The parts of `s` between separators, cutting at most `n` times. -/
def cut (sep : List α) : Nat → List α → List (List α)
  | 0, s => [s]
  | n + 1, s =>
    match firstIndex? sep s with
    | none => [s]
    | some i => s.take i :: cut sep n (s.drop (i + sep.length))

/-- `s` with at most `n` occurrences of `old` replaced by `new`. -/
def substitute (old new : List α) : Nat → List α → List α
  | 0, s => s
  | n + 1, s =>
    match firstIndex? old s with
    | none => s
    | some i => s.take i ++ new ++ substitute old new n (s.drop (i + old.length))

omit [BEq α] in
/-- `s` with `new` before each of its first elements and after its last, at most `n` times. -/
def interleave (new : List α) : Nat → List α → List α
  | 0, s => s
  | _ + 1, [] => new
  | n + 1, c :: s => new ++ c :: interleave new n s

/-- The runs of elements outside the class `p`, cutting at most `n` times: elements of the class
at the front are dropped, and so are those that end a run. -/
def runs (p : α → Bool) : Nat → List α → List (List α)
  | 0, s => let s := s.dropWhile p; if s.isEmpty then [] else [s]
  | n + 1, s =>
    let s := s.dropWhile p
    if s.isEmpty then []
    else s.takeWhile (fun c => !p c) :: runs p n (s.dropWhile fun c => !p c)

end Admission.Text
