import Admission.Pattern.Part
import Admission.Text.CharacterName
import Admission.Text.Identifier
import Admission.Text.Numeral

/-!
# Written patterns with references and look-around

The full notation of patterns: groups with numbers and names, references to them, look-ahead,
look-behind over a fixed width, atomic groups, choices by a group, possessive and lazy
repetitions, flags at the front or for a group, and classes that know every script. A pattern for
octets knows ASCII only, and has no escapes for characters beyond one octet.

* `Pattern.read`: the pattern that a text writes.
* `Pattern.Fault`: why a text writes none.
-/

namespace Admission.Pattern

open Text

/-- Why a text writes no pattern. -/
inductive Fault where
  | malformed
  /-- The name of a character holds half of a surrogate pair. -/
  | badName
  /-- A repetition asks for more rounds than are counted. -/
  | tooManyRounds
  /-- The number of rounds has more digits than are read. -/
  | longNumber
  /-- Two flags for the whole pattern exclude each other. -/
  | flagClash
  deriving DecidableEq, Repr

/-- What a pattern is matched against. -/
inductive Medium where
  | text
  | octets
  deriving DecidableEq, Repr

namespace Grammar

/-- A character of a written pattern, behind a backslash or not. -/
inductive Token where
  | char (c : Point)
  | escape (c : Point)
  /-- A backslash that nothing stands behind. -/
  | broken
  deriving DecidableEq, Repr

/-- The tokens of a written pattern. -/
def tokens : List Point → List Token
  | [] => []
  | ['\\'] => [.broken]
  | '\\' :: c :: cs => .escape c :: tokens cs
  | c :: cs => .char c :: tokens cs

/-- What has been read: the rest of the pattern, the flags in force, the groups opened so far, and
the widths of those that are closed. -/
structure State where
  rest : List Token
  medium : Medium
  flags : Flags
  /-- The flags for the whole pattern, by their letters. -/
  whole : List Point := []
  /-- The number of groups opened, counting the whole pattern. -/
  groups : Nat := 1
  names : List (List Point × Nat) := []
  closed : List (Nat × Nat × Option Nat) := []
  /-- Groups that choices ask for, which must exist in the end. -/
  asked : List Nat := []
  /-- Inside a look-behind: the number of groups opened before it. -/
  behindFrom : Option Nat := none
  /-- Whether the matches of a look-behind differ in length. -/
  uneven : Bool := false

/-- A reading step, which may find a fault. -/
abbrev Read (α : Type) := StateT State (Except Fault) α

/-- A malformed pattern. -/
def malformed {α : Type} : Read α := throw .malformed

/-- The next token, if there is one, which stays. -/
def peek : Read (Option Token) := do return (← get).rest.head?

/-- Moves behind the next token. A broken backslash is found as soon as it is the next one. -/
def advance : Read Unit := do
  let s ← get
  match s.rest.tail with
  | .broken :: _ => malformed
  | rest => set { s with rest := rest }

/-- The next token, which must be there. -/
def next : Read Token := do
  match ← peek with
  | some t =>
    advance
    return t
  | none => malformed

/-- The next token, which must be a character without a backslash. -/
def nextChar : Read Point := do
  match ← next with
  | .char c => return c
  | _ => malformed

/-- Takes the next token if it is the given character, and says so. -/
def skip (c : Point) : Read Bool := do
  if (← peek) = some (.char c) then
    advance
    return true
  else return false

/-- The next token must be the given character. -/
def expect (c : Point) : Read Unit := do
  if ← skip c then return () else malformed

/-- At most `n` characters of a class. -/
def takeUpTo : (n : Nat) → (p : Point → Bool) → Read (List Point)
  | 0, _ => return []
  | n + 1, p => do
    match ← peek with
    | some (.char c) =>
      if p c then
        advance
        return c :: (← takeUpTo n p)
      else return []
    | _ => return []

/-- All characters of a class at the front. -/
def takeAll (p : Point → Bool) : Read (List Point) := do
  takeUpTo (← get).rest.length p

/-- The characters up to a closing one, which is taken, and before which there must be one. The
first argument bounds them. -/
def takeUntil : Nat → (stop : Point) → (before : List Point) → Read (List Point)
  | 0, _, _ => malformed
  | more + 1, stop, before => do
    match ← next with
    | .char c =>
      if c = stop then
        if before.isEmpty then malformed else return before.reverse
      else takeUntil more stop (c :: before)
    | .escape c => takeUntil more stop (c :: '\\' :: before)
    | .broken => malformed

/-- The name up to a closing character. -/
def nameUntil (stop : Point) : Read (List Point) := do
  takeUntil ((← get).rest.length + 1) stop []

/-- Passes over everything up to a character, and over that if it is there; an answer says so. -/
def passUntil : Nat → (stop : Point) → Read Bool
  | 0, _ => return false
  | more + 1, stop => do
    match ← peek with
    | none => return false
    | some t =>
      advance
      if t = .char stop then return true else passUntil more stop

/-- Passes over a comment up to its closing character, which must be there if it is asked for. -/
def passComment (stop : Point) (must : Bool) : Read Unit := do
  let closed ← passUntil (← get).rest.length stop
  if must && !closed then malformed

/-! ### Characters -/

/-- Exactly `n` hexadecimal digits, as a code. -/
def hexCode (n : Nat) : Read Nat := do
  let ds ← takeUpTo n isHex
  let code := numberIn 16 ds
  if ds.length = n ∧ code < 0x110000 then return code else malformed

/-- The code of a character by its name in braces. -/
def namedCode : Read Nat := do
  expect '\x7b'
  match (← nameUntil '\x7d').mapM Point.char? with
  | none => throw .badName
  | some name =>
    match characterOfName? name with
    | some c => return c.toNat
    | none => malformed

/-- The code behind a letter that starts one; there is none if the letter does not. -/
def letterCode? (c : Point) : Read (Option Nat) := do
  let inText := (← get).medium = .text
  if c = 'x' then return some (← hexCode 2)
  else if inText ∧ c = 'u' then return some (← hexCode 4)
  else if inText ∧ c = 'U' then return some (← hexCode 8)
  else if inText ∧ c = 'N' then return some (← namedCode)
  else return none

/-- The code of an octal number, which must fit one octet. -/
def octalCode (ds : List Point) : Read Nat :=
  if numberIn 8 ds > 0o377 then malformed else return numberIn 8 ds

/-- One character or class inside a set, after its backslash. -/
def setEscape (c : Point) : Read SetItem := do
  if c = 'b' then return .char '\x08'
  else if let some d := control? c then return .char d
  else if let some item := shorthand? (← get).flags.reach c then return item
  else if let some code := ← letterCode? c then return .ofCode code
  else if isOctal c then return .ofCode (← octalCode (c :: (← takeUpTo 2 isOctal)))
  else if c.isAlphanum then malformed
  else return .char c

/-- One character or class inside a set. -/
def setMember : Token → Read SetItem
  | .char c => return .char c
  | .escape c => setEscape c
  | .broken => malformed

/-- The members of a set up to its closing bracket, which is a member itself if it comes first.
The first argument bounds them. -/
def setItems : Nat → List SetItem → Read (List SetItem)
  | 0, _ => malformed
  | more + 1, before => do
    let t ← next
    if t = .char ']' ∧ !before.isEmpty then return before.reverse
    else
      let first ← setMember t
      if ← skip '-' then
        let u ← next
        if u = .char ']' then return (.char '-' :: first :: before).reverse
        else
          match first.code?, (← setMember u).code? with
          | some lo, some hi =>
            if hi < lo then malformed else setItems more (.range lo hi :: before)
          | _, _ => malformed
      else setItems more (first :: before)

/-- A set, after its opening bracket. -/
def readSet : Read Pattern := do
  let negated ← skip '^'
  let items ← setItems ((← get).rest.length + 1) []
  return .oneOf ⟨negated, items, (← get).flags.fold⟩

/-- One character as an item. -/
def charItem (c : Point) : Read Item := do return .plain (.char c (← get).flags.fold)

/-- The point of a code as an item. -/
def codeItem (code : Nat) : Read Item := charItem (Point.ofNat code)

/-! ### References -/

/-- The number of a group that has been closed, as a reference to it needs it. -/
def referable (index : Nat) : Read Nat := do
  let s ← get
  match s.closed.lookup index with
  | none => malformed
  | some _ =>
    match s.behindFrom with
    | some n => if n ≤ index then malformed else return index
    | none => return index

/-- A choice inside a look-behind may ask only for groups closed before it. -/
def askable (index : Nat) : Read Unit := do
  match (← get).behindFrom with
  | some _ => discard (referable index)
  | none => return ()

/-- A reference to a group by its number. -/
def referenceItem (index : Nat) : Read Item := do
  let index ← referable index
  return .plain (.reference index (← get).flags.fold)

/-- An escape of digits: a reference to a group, or an octal number of three digits. -/
def digitEscape (c : Point) : Read Item := do
  match ← peek with
  | some (.char d) =>
    if d.isDigit then
      advance
      match ← peek with
      | some (.char e) =>
        if isOctal c && isOctal d && isOctal e then
          advance
          codeItem (← octalCode [c, d, e])
        else referenceItem (numberIn 10 [c, d])
      | _ => referenceItem (numberIn 10 [c, d])
    else referenceItem (numberIn 10 [c])
  | _ => referenceItem (numberIn 10 [c])

/-- What an escape outside sets stands for, after its backslash. -/
def escapeItem (c : Point) : Read Item := do
  let reach := (← get).flags.reach
  if c = 'A' then return .anchor .textStart
  else if c = 'Z' then return .anchor .textEnd
  else if c = 'b' then return .anchor (.wordEdge reach)
  else if c = 'B' then return .anchor (.noWordEdge reach false)
  else if let some item := shorthand? reach c then return .plain (.oneOf ⟨false, [item], .exact⟩)
  else if let some d := control? c then charItem d
  else if let some code := ← letterCode? c then codeItem code
  else if c = '0' then codeItem (← octalCode (c :: (← takeUpTo 2 isOctal)))
  else if c.isDigit then digitEscape c
  else if c.isAlpha then malformed
  else charItem c

/-! ### Repetitions -/

/-- The least number of rounds that cannot be counted. -/
def tooMany : Nat := 4294967295

/-- The number of rounds that digits write. -/
def roundCount (ds : List Point) : Read Nat :=
  if ds.length > digitLimit then throw .longNumber
  else if numberIn 10 ds ≥ tooMany then throw .tooManyRounds
  else return numberIn 10 ds

/-- The least and greatest number of rounds of a repetition, after its first character; `none`
if a brace stands for itself. -/
def bounds (c : Point) : Read (Option (Nat × Option Nat)) := do
  if c = '?' then return some (0, some 1)
  else if c = '*' then return some (0, none)
  else if c = '+' then return some (1, none)
  else if (← peek) = some (.char '\x7d') then return none
  else
    let before ← get
    let lo ← takeAll Point.isDigit
    let comma ← skip ','
    let hi ← if comma then takeAll Point.isDigit else pure lo
    if ← skip '\x7d' then
      let least ← roundCount lo
      let most ← roundCount hi
      if hi.isEmpty then return some (least, none)
      else if most < least then malformed
      else return some (least, some most)
    else
      set before
      return none

/-- How a repetition chooses, by the character behind its bounds. -/
def readGreed : Read Greed := do
  match ← peek with
  | some (.char '?') =>
    advance
    return .lazy
  | some (.char '+') =>
    advance
    return .possessive
  | _ => return .greedy

/-- A repetition of the last item. -/
def repeatItem (least : Nat) (most : Option Nat) : List Item → Read (List Item)
  | .plain p :: items => do return .repeated (.loop p least most (← readGreed)) :: items
  | _ => malformed

/-! ### Flags -/

/-- The letters of flags. Octets have no scripts but may have those of a place. -/
def flagLetters : Medium → List Point
  | .text => ['i', 'm', 's', 'x', 'a', 't', 'u']
  | .octets => ['i', 'm', 's', 'x', 'a', 't', 'L']

/-- The flags that say which letters there are. Each of them excludes the others. -/
def repertoires : List Point := ['a', 'u', 'L']

/-- Whether more than one repertoire is among flags. -/
def isClash (letters : List Point) : Bool := 1 < (repertoires.filter letters.contains).length

/-- The letters of flags, up to a character that is none; that character comes back too. -/
def readFlags : Nat → List Point → Point → Read (List Point × Point)
  | 0, _, _ => malformed
  | more + 1, before, c => do
    if (flagLetters (← get).medium).contains c then readFlags more (c :: before) (← nextChar)
    else return (before, c)

/-- Flags turned on or off by letters. -/
def turn (f : Flags) (on : Bool) (letters : List Point) : Flags where
  ignoreCase := if letters.contains 'i' then on else f.ignoreCase
  lines := if letters.contains 'm' then on else f.lines
  breaks := if letters.contains 's' then on else f.breaks
  spaced := if letters.contains 'x' then on else f.spaced
  ascii := if letters.contains 'u' then false else if letters.contains 'a' then on else f.ascii

/-- What stands after `(?` and a flag letter or a minus: flags for the whole pattern (`none`), or
flags for a group, turned on and off. The flag that rules out repetitions is for the whole pattern
only. -/
def flagChange (c : Point) : Read (List Point × Option (List Point)) := do
  let bound := (← get).rest.length + 2
  let (on, c) ← readFlags bound [] c
  if isClash on then malformed
  else if c = ')' then
    if on.isEmpty then malformed else return (on, none)
  else if on.contains 't' then malformed
  else if c = ':' then return (on, some [])
  else if c = '-' then
    let (off, c) ← readFlags bound [] (← nextChar)
    let kept := .char 't' :: (repertoires ++ on)
    if c != ':' || off.isEmpty || off.any kept.contains then malformed
    else return (on, some off)
  else malformed

/-! ### Groups -/

/-- Opens a group, with a name if it has one, and gives its number. -/
def openGroup (name : Option (List Point)) : Read Nat := do
  let s ← get
  match name with
  | some n =>
    if (s.names.lookup n).isSome then malformed
    else set { s with groups := s.groups + 1, names := (n, s.groups) :: s.names }
  | none => set { s with groups := s.groups + 1 }
  return s.groups

/-- The widths of the groups closed so far. -/
def groupWidths (s : State) (index : Nat) : Nat × Option Nat :=
  (s.closed.lookup index).getD (0, none)

/-- Closes a group. -/
def closeGroup (index : Nat) (p : Pattern) : Read Unit :=
  modify fun s => { s with closed := (index, p.widths (groupWidths s)) :: s.closed }

/-- The name of a group up to a closing character. -/
def groupName (stop : Point) : Read (List Point) := do
  let name ← nameUntil stop
  if isIdentifier name then return name else malformed

/-- The group that a choice asks for, by name or number. -/
def askedGroup : Read Nat := do
  let name ← nameUntil ')'
  if isIdentifier name then
    match (← get).names.lookup name with
    | some index => return index
    | none => malformed
  else
    match readInt? 10 name with
    | some n =>
      if n ≤ 0 then malformed
      else
        modify fun s => { s with asked := n.toNat :: s.asked }
        return n.toNat
    | none => malformed

/-- The greatest width of a look-behind. -/
def greatestWidth : Nat := 4294967295

/-- The pattern stands before a place, or does not. If its matches differ in length, that is a
fault, but one that is found after all others. -/
def behindItem (negated : Bool) (p : Pattern) : Read Item := do
  match (p.width? (groupWidths (← get))).filter (· ≤ greatestWidth) with
  | some width => return .plain (.behind negated width p)
  | none =>
    modify fun s => { s with uneven := true }
    return .plain .never

mutual

/-- Alternatives up to a closing parenthesis or the end. The first argument bounds the depth. -/
def alternatives : Nat → (whole : Bool) → Read Pattern
  | 0, _ => malformed
  | more + 1, whole => do
    let p := ofItems (← sequence more whole [])
    if ← skip '|' then return .alt p (← alternatives more false) else return p

/-- The items of a sequence, the last one first. Flags for the whole pattern are read only while
`front` says that nothing stands before them. -/
def sequence : Nat → (front : Bool) → List Item → Read (List Item)
  | 0, _, _ => malformed
  | more + 1, front, before => do
    match ← peek with
    | none | some .broken => return before
    | some (.escape c) =>
      advance
      sequence more front ((← escapeItem c) :: before)
    | some (.char c) =>
      if c = '|' ∨ c = ')' then return before
      else
        advance
        let flags := (← get).flags
        if flags.spaced && (c == ' ' || ('\t' ≤ c && c ≤ '\r')) then sequence more front before
        else if flags.spaced && c == '#' then
          passComment '\n' false
          sequence more front before
        else if c = '[' then sequence more front (.plain (← readSet) :: before)
        else if c = '.' then sequence more front (.plain (.any flags.breaks) :: before)
        else if c = '^' then
          sequence more front (.anchor (if flags.lines then .lineStart else .textStart) :: before)
        else if c = '$' then
          sequence more front (.anchor (if flags.lines then .lineEnd else .lastLineEnd) :: before)
        else if c = '(' then
          match ← parenthesis more (front && before.isEmpty) with
          | some item => sequence more front (item :: before)
          | none => sequence more front before
        else if c = '*' ∨ c = '+' ∨ c = '?' ∨ c = '\x7b' then
          match ← bounds c with
          | some (least, most) => sequence more front (← repeatItem least most before)
          | none => sequence more front ((← charItem c) :: before)
        else sequence more front ((← charItem c) :: before)

/-- What stands in parentheses, after the opening one; nothing for comments and flags. -/
def parenthesis : Nat → (front : Bool) → Read (Option Item)
  | 0, _ => malformed
  | more + 1, front => do
    if ← skip '?' then
      let c ← nextChar
      if c = ':' then return some (.plain (← inside more))
      else if c = '>' then return some (.plain (.atomic (← inside more)))
      else if c = '#' then
        passComment ')' true
        return none
      else if c = '=' ∨ c = '!' then return some (.plain (.ahead (c = '!') (← inside more)))
      else if c = '<' then
        let d ← nextChar
        if d = '=' ∨ d = '!' then
          -- inside, references reach groups that were there before only
          let outer := (← get).behindFrom
          modify fun s => { s with behindFrom := outer.or (some s.groups) }
          let p ← alternatives more false
          modify fun s => { s with behindFrom := outer }
          expect ')'
          return some (← behindItem (d = '!') p)
        else malformed
      else if c = 'P' then
        if ← skip '<' then return some (← group more (some (← groupName '>')))
        else if ← skip '=' then
          match (← get).names.lookup (← groupName ')') with
          | some index => return some (← referenceItem index)
          | none => malformed
        else malformed
      else if c = '(' then
        let index ← askedGroup
        askable index
        let yes ← sequence more false []
        let no ← if ← skip '|' then sequence more false [] else pure []
        expect ')'
        return some (.plain (.choice index (ofItems yes) (ofItems no)))
      else
        -- flags for the whole pattern stand at its front, others hold up to a parenthesis
        match ← flagChange c with
        | (on, none) =>
          if front then
            modify fun s => { s with flags := turn s.flags true on, whole := on ++ s.whole }
            return none
          else malformed
        | (on, some off) =>
          let outer := (← get).flags
          modify fun s => { s with flags := turn (turn s.flags true on) false off }
          let p ← inside more
          modify fun s => { s with flags := outer }
          return some (.plain p)
    else return some (← group more none)

/-- Alternatives and the closing parenthesis behind them. -/
def inside : Nat → Read Pattern
  | 0 => malformed
  | more + 1 => do
    let p ← alternatives more false
    expect ')'
    return p

/-- A group up to its closing parenthesis. -/
def group : Nat → (name : Option (List Point)) → Read Item
  | 0, _ => malformed
  | more + 1, name => do
    let index ← openGroup name
    let p ← inside more
    closeGroup index p
    return .plain (.group index p)

end

/-- The pattern that was read, unless it is at fault as a whole. -/
def finish (p : Pattern) : Read Pattern := do
  let s ← get
  if isClash s.whole then throw .flagClash
  else if !s.rest.isEmpty || s.asked.any (s.groups ≤ ·) || s.uneven then malformed
  else if s.whole.contains 't' && p.hasLoop then malformed
  else return p

/-- A written pattern. -/
def pattern : Read Pattern := do
  let s ← get
  if s.rest.head? = some .broken then malformed
  else finish (← alternatives (6 * s.rest.length + 8) true)

end Grammar

/-- **The pattern that a text writes** for texts or octets. The codes of octets are characters. -/
def read (medium : Medium) (cs : List Point) : Except Fault Pattern :=
  (Grammar.pattern.run
    { rest := Grammar.tokens cs, medium := medium, flags := { ascii := medium = .octets } }).map
    Prod.fst

end Admission.Pattern
