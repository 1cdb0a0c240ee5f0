import Admission.Pattern.Part
import Admission.Pattern.Matcher
import Admission.Text.Category
import Admission.Text.Script

/-!
# Written patterns without references and look-around

The notation of patterns that finite automata can match: groups, repetitions up to a thousand
rounds, flags, sets with the named classes of POSIX, quoted stretches. Named classes are those
of ASCII, and the end of the text is the end, with or without a line break before it.

* `Pattern.readRegular?`: the pattern that a text writes.
* `Pattern.matches?`: whether such a pattern matches somewhere in a text.
-/

namespace Admission.Pattern.RegularGrammar

/-- What has been read: the rest of the text, the flags in force, and the groups opened so far. -/
structure State where
  rest : List Point
  flags : Flags := {}
  /-- The number of groups opened, counting the whole pattern. -/
  groups : Nat := 1
  names : List Text := []

/-- A reading step, which fails on a malformed pattern. -/
abbrev Read (α : Type) := StateT State Option α

/-- A malformed pattern. -/
def malformed {α : Type} : Read α := fun _ => none

/-- The next character, if there is one, which stays. -/
def peek : Read (Option Point) := do return (← get).rest.head?

/-- The next character, which must be there. -/
def next : Read Point := do
  let s ← get
  match s.rest with
  | [] => malformed
  | c :: rest =>
    set { s with rest := rest }
    return c

/-- Takes the next character if it is the given one, and says so. -/
def skip (c : Point) : Read Bool := do
  if (← peek) = some c then
    let _ ← next
    return true
  else return false

/-- The next character must be the given one. -/
def expect (c : Point) : Read Unit := do
  if ← skip c then return () else malformed

/-- At most `n` characters of a class. -/
def takeUpTo (n : Nat) (p : Point → Bool) : Read (List Point) := do
  let s ← get
  let taken := (s.rest.take n).takeWhile p
  set { s with rest := s.rest.drop taken.length }
  return taken

/-- All characters of a class at the front. -/
def takeAll (p : Point → Bool) : Read (List Point) := do
  takeUpTo (← get).rest.length p

/-- Which letters count as the same. -/
def fold (f : Flags) : Fold := if f.ignoreCase then .apart else .exact

/-- One character as an item. -/
def charItem (c : Point) : Read Item := do return .plain (.char c (fold (← get).flags))

/-! ### Classes -/

/-- The digits, the Latin letters and the underscore of ASCII. -/
def asciiWord : List (Nat × Nat) := [(0x30, 0x39), (0x41, 0x5A), (0x5F, 0x5F), (0x61, 0x7A)]

/-- The classes of POSIX, by closed ranges of codes in ASCII. -/
def posixClasses : List (Text × List (Nat × Nat)) :=
  [("alnum", [(0x30, 0x39), (0x41, 0x5A), (0x61, 0x7A)]), ("alpha", [(0x41, 0x5A), (0x61, 0x7A)]),
    ("ascii", [(0x00, 0x7F)]), ("blank", [(0x09, 0x09), (0x20, 0x20)]),
    ("cntrl", [(0x00, 0x1F), (0x7F, 0x7F)]), ("digit", [(0x30, 0x39)]), ("graph", [(0x21, 0x7E)]),
    ("lower", [(0x61, 0x7A)]), ("print", [(0x20, 0x7E)]),
    ("punct", [(0x21, 0x2F), (0x3A, 0x40), (0x5B, 0x60), (0x7B, 0x7E)]),
    ("space", [(0x09, 0x0D), (0x20, 0x20)]), ("upper", [(0x41, 0x5A)]), ("word", asciiWord),
    ("xdigit", [(0x30, 0x39), (0x41, 0x46), (0x61, 0x66)])]

/-- A class with a name of one letter, a capital for its complement: digits, spaces and words of
ASCII. The vertical tab is no space here. -/
def letterClass? (c : Point) : Option SetItem :=
  let spaces := [(0x09, 0x0A), (0x0C, 0x0D), (0x20, 0x20)]
  if c = 'd' then some (.among [(0x30, 0x39)] false)
  else if c = 'D' then some (.among [(0x30, 0x39)] true)
  else if c = 's' then some (.among spaces false)
  else if c = 'S' then some (.among spaces true)
  else if c = 'w' then some (.among asciiWord false)
  else if c = 'W' then some (.among asciiWord true)
  else none

/-- The characters of a script or category, or all there are. -/
def unicodeRanges? : Text → Option (List (Nat × Nat))
  | .plain "Any" => some [(0, 0x10FFFF)]
  | .plain name => (Text.categoryRanges? name).or (Text.scriptRanges? name)
  | .half _ _ _ => none

/-- The class of a script or category by its name, of one letter or in braces, after its letter. A
caret in front of the name gives the complement. -/
def unicodeClass (negated : Bool) : Read SetItem := do
  let c ← next
  let name ← (if c = '\x7b' then do
      let name ← takeAll fun c => c != '\x7d'
      expect '\x7d'
      return name
    else return [c])
  let (negated, name) := match name with
    | '^' :: name => (!negated, name)
    | name => (negated, name)
  match unicodeRanges? (Text.ofList name) with
  | some ranges => return .among ranges negated
  | none => malformed

/-- The class at the front, after its backslash, if there is one. -/
def classEscape? : Read (Option SetItem) := do
  match ← peek with
  | none => return none
  | some c =>
    if c = 'p' ∨ c = 'P' then
      let _ ← next
      return some (← unicodeClass (c = 'P'))
    else
      match letterClass? c with
      | some item =>
        let _ ← next
        return some item
      | none => return none

/-! ### Characters -/

/-- A hexadecimal code: two digits, or any number of them in braces. -/
def hexCode : Read Nat := do
  if ← skip '\x7b' then
    let ds ← takeAll isHex
    expect '\x7d'
    let code := numberIn 16 ds
    if ds.isEmpty ∨ code > 0x10FFFF then malformed else return code
  else
    let ds ← takeUpTo 2 isHex
    if ds.length = 2 then return numberIn 16 ds else malformed

/-- The code of an escape, after its backslash. -/
def escapedCode (c : Point) : Read Nat := do
  if c = 'x' then hexCode
  else if c = '0' then return numberIn 8 (← takeUpTo 2 isOctal)
  else if isOctal c then
    let more ← takeUpTo 2 isOctal
    if more.isEmpty then malformed else return numberIn 8 (c :: more)
  else if let some d := control? c then return d.toNat
  else if c.toNat < 0x80 && !c.isAlphanum then return c.toNat
  else malformed

/-- The code of one character of a set. -/
def setCode : Read Nat := do
  let c ← next
  if c = '\\' then escapedCode (← next) else return c.toNat

/-- The name of a class of POSIX behind `[:`, and the rest behind `:]`. -/
def posixName? : List Point → Option (List Point × List Point)
  | [] => none
  | ':' :: ']' :: rest => some ([], rest)
  | c :: cs => (posixName? cs).map fun (name, rest) => (c :: name, rest)

/-- A class of POSIX at the front (`[:name:]`), if there is one; a caret gives its complement. -/
def posix? : Read (Option SetItem) := do
  let s ← get
  match s.rest with
  | '[' :: ':' :: cs =>
    match posixName? cs with
    | none => return none
    | some (name, rest) =>
      let (negated, name) := match name with
        | '^' :: name => (true, name)
        | name => (false, name)
      match posixClasses.lookup (Text.ofList name) with
      | some ranges =>
        set { s with rest := rest }
        return some (.among ranges negated)
      | none => malformed
  | _ => return none

/-- A class inside a set at the front, if there is one. -/
def setClass? : Read (Option SetItem) := do
  if let some item := ← posix? then return some item
  let before ← get
  if ← skip '\\' then
    if let some item := ← classEscape? then return some item
  set before
  return none

/-- One character of a set, or a range from it to another one. -/
def setRange : Read SetItem := do
  let lo ← setCode
  match (← get).rest with
  | '-' :: c :: _ =>
    if c = ']' then return .range lo lo
    else
      let _ ← next
      let hi ← setCode
      if hi < lo then malformed else return .range lo hi
  | _ => return .range lo lo

/-- The members of a set up to its closing bracket, which is a member itself if it comes first. -/
def setItems : Nat → (first : Bool) → List SetItem → Read (List SetItem)
  | 0, _, _ => malformed
  | more + 1, first, before => do
    if !first && (← peek) = some (.char ']') then
      let _ ← next
      return before.reverse
    else
      match ← setClass? with
      | some item => setItems more false (item :: before)
      | none => setItems more false ((← setRange) :: before)

/-- A set, after its opening bracket. -/
def readSet : Read Pattern := do
  let negated ← skip '^'
  let items ← setItems ((← get).rest.length + 1) true []
  return .oneOf ⟨negated, items, fold (← get).flags⟩

/-! ### Repetitions -/

/-- A number of rounds: digits without leading zeros. -/
def count? : List Point → Option Nat
  | [] => none
  | '0' :: _ :: _ => none
  | ds => some (numberIn 10 ds)

/-- The greatest number of rounds that can be asked for. -/
def mostRounds : Nat := 1000

/-- The bounds of a repetition, after its first character; `none` if a brace stands for
itself. -/
def bounds (c : Point) : Read (Option (Nat × Option Nat)) := do
  if c = '?' then return some (0, some 1)
  else if c = '*' then return some (0, none)
  else if c = '+' then return some (1, none)
  else
    let before ← get
    let lo ← takeAll Point.isDigit
    let comma ← skip ','
    let hi ← if comma then takeAll Point.isDigit else pure lo
    let closed ← skip '}'
    match closed, count? lo, hi.isEmpty, count? hi with
    | true, some least, true, _ =>
      if least > mostRounds then malformed else return some (least, none)
    | true, some least, false, some most =>
      if most < least ∨ least > mostRounds ∨ most > mostRounds then malformed
      else return some (least, some most)
    | _, _, _, _ =>
      set before
      return none

/-- What is left of a number of rounds where repetitions inside a pattern share it. -/
def roundsLeft (rounds : Nat) : Pattern → Nat
  | .loop p least most _ =>
    let own := most.getD least
    roundsLeft (if own = 0 then rounds else rounds / own) p
  | .seq p q | .alt p q => min (roundsLeft rounds p) (roundsLeft rounds q)
  | .group _ p => roundsLeft rounds p
  | _ => rounds

/-- A repetition of the last item, which must not be one itself. Repetitions inside one another must
not ask for too many rounds together. -/
def repeatItem (least : Nat) (most : Option Nat) : List Item → Read (List Item)
  | .repeated _ :: _ | [] => malformed
  | item :: items => do
    let isLazy ← skip '?'
    let p := Pattern.loop item.pattern least most (if isLazy then .lazy else .greedy)
    let counted := 2 ≤ least || most.any (2 ≤ ·)
    if counted && roundsLeft mostRounds p = 0 then malformed else return .repeated p :: items

/-- What an escape outside sets stands for, after its backslash. -/
def escapeItem (c : Point) : Read Item := do
  if c = 'A' then return .plain (.anchor .textStart)
  else if c = 'z' then return .plain (.anchor .textEnd)
  else if c = 'b' then return .plain (.anchor (.wordEdge .ascii))
  else if c = 'B' then return .plain (.anchor (.noWordEdge .ascii true))
  else if c = 'C' then return .plain (.any true)
  else
    let code ← escapedCode c
    if code.isValidChar then charItem (Point.ofNat code) else return .plain .never

/-- The characters of a quoted stretch, which ends with `\E` or with the text. -/
def quotedStretch : List Point → List Point × List Point
  | [] => ([], [])
  | '\\' :: 'E' :: rest => ([], rest)
  | c :: cs =>
    let (taken, rest) := quotedStretch cs
    (c :: taken, rest)

/-- Flags after `(?`, up to the colon or parenthesis, which comes back. -/
def flagChange : Nat → (on changed : Bool) → Flags → Read (Flags × Point)
  | 0, _, _, _ => malformed
  | more + 1, on, changed, f => do
    let c ← next
    if c = 'i' then flagChange more on true { f with ignoreCase := on }
    else if c = 'm' then flagChange more on true { f with lines := on }
    else if c = 's' then flagChange more on true { f with breaks := on }
    else if c = 'U' then flagChange more on true f
    else if c = '-' then if on then flagChange more false false f else malformed
    else if c = ':' ∨ c = ')' then if on || changed then return (f, c) else malformed
    else malformed

/-- The categories of the characters in names of groups. -/
def nameCategories : List String :=
  ["Lu", "Ll", "Lt", "Lm", "Lo", "Nl", "Mn", "Mc", "Nd", "Pc"]

/-- Whether a character may stand in the name of a group. -/
def isNameChar (c : Point) : Bool :=
  nameCategories.any fun name => Text.inRanges ((Text.categoryRanges? name).getD []) c.toNat

/-- The name of a group up to its closing bracket. -/
def groupName : Read Text := do
  let name ← takeAll (· != '>')
  expect '>'
  if !name.isEmpty && name.all isNameChar then return Text.ofList name else malformed

/-- Opens a group, with a name of its own if it has one, and gives its number. -/
def openGroup (name : Option Text) : Read Nat := do
  let s ← get
  if name.any s.names.contains then malformed
  else
    set { s with groups := s.groups + 1, names := name.toList ++ s.names }
    return s.groups

mutual

/-- Alternatives up to a closing parenthesis or the end. The first argument bounds the depth. -/
def alternatives : Nat → Read Pattern
  | 0 => malformed
  | more + 1 => do
    let p := ofItems (← sequence more [])
    if ← skip '|' then return .alt p (← alternatives more) else return p

/-- The items of a sequence, the last one first. -/
def sequence : Nat → List Item → Read (List Item)
  | 0, _ => malformed
  | more + 1, before => do
    match ← peek with
    | none => return before
    | some c =>
      if c = '|' ∨ c = ')' then return before
      else
        let _ ← next
        let flags := (← get).flags
        if c = '\\' then
          if let some item := ← classEscape? then
            return ← sequence more (.plain (.oneOf ⟨false, [item], fold flags⟩) :: before)
          let d ← next
          if d = 'Q' then
            let s ← get
            let (taken, rest) := quotedStretch s.rest
            set { s with rest := rest }
            sequence more (taken.reverse.map (fun c => .plain (.char c (fold flags))) ++ before)
          else sequence more ((← escapeItem d) :: before)
        else if c = '[' then sequence more (.plain (← readSet) :: before)
        else if c = '.' then sequence more (.plain (.any flags.breaks) :: before)
        else if c = '^' then
          let start := if flags.lines then Anchor.lineStart else .textStart
          sequence more (.plain (.anchor start) :: before)
        else if c = '$' then
          sequence more (.plain (.anchor (if flags.lines then .lineEnd else .textEnd)) :: before)
        else if c = '(' then
          match ← parenthesis more with
          | some item => sequence more (item :: before)
          | none => sequence more before
        else if c = '*' ∨ c = '+' ∨ c = '?' ∨ c = '{' then
          match ← bounds c with
          | some (least, most) => sequence more (← repeatItem least most before)
          | none => sequence more ((← charItem c) :: before)
        else sequence more ((← charItem c) :: before)

/-- What stands in parentheses, after the opening one; nothing for flags. -/
def parenthesis : Nat → Read (Option Item)
  | 0 => malformed
  | more + 1 => do
    let outer := (← get).flags
    if ← skip '?' then
      let c ← peek
      if c = some (.char 'P') ∨ c = some (.char '<') then
        if ← skip 'P' then expect '<' else expect '<'
        group more outer (some (← groupName))
      else
        let (flags, stop) ← flagChange ((← get).rest.length + 1) true false outer
        modify fun s => { s with flags := flags }
        if stop = ')' then return none
        else
          let p ← alternatives more
          expect ')'
          modify fun s => { s with flags := outer }
          return some (.plain p)
    else group more outer none

/-- A group up to its closing parenthesis; flags changed inside do not reach beyond. -/
def group : Nat → Flags → Option Text → Read (Option Item)
  | 0, _, _ => malformed
  | more + 1, outer, name => do
    let index ← openGroup name
    let p ← alternatives more
    expect ')'
    modify fun s => { s with flags := outer }
    return some (.plain (.group index p))

end

end RegularGrammar

/-- **The pattern without references and look-around that a text writes.** -/
def readRegular? (text : Text) : Option Pattern := do
  let cs := text.toList
  let (p, s) ← (RegularGrammar.alternatives (5 * cs.length + 8)).run { rest := cs }
  if s.rest.isEmpty then some p else none

/-- **Whether a written pattern matches somewhere in a text,** if it is well formed. -/
def matches? (pattern text : Text) : Option Bool :=
  (readRegular? pattern).map fun p => (p.find? text.toList).isSome

end Admission.Pattern
