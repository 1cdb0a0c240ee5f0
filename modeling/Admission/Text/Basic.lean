/-!
# Texts

The characters of a text are code points, and halves of surrogate pairs are among them: such a half
may stand in a text on its own, and the text is as good as any other one until it is to be encoded.
Most texts have no halves, so a text is stored as strings with halves in between.

* `Point`: code points.
* `Text`: texts, `Text.toList`: their code points, `Text.ofList`: the text of a row of them.
* `Text.ofList_toList`, `Text.toList_ofList`: **texts are rows of code points.**
-/

namespace Admission

/-- A code point: a scalar value, or half of a surrogate pair. -/
inductive Point where
  | char (c : Char)
  /-- The half with a number among the halves; those that come first in a pair have the lower
  numbers. -/
  | half (h : Fin 2048)
  deriving DecidableEq, Inhabited, Repr

namespace Point

instance : Coe Char Point := ⟨.char⟩

@[simp]
theorem char_beq_char (c d : Char) : (char c == char d) = (c == d) := by
  by_cases h : c = d
  · subst h
    simp
  · rw [beq_false_of_ne h, beq_false_of_ne (mt char.inj h)]

/-- The code of a point. -/
def toNat : Point → Nat
  | .char c => c.toNat
  | .half h => 0xD800 + h

/-- The point of a code. -/
def ofNat (n : Nat) : Point :=
  if h : 0xD800 ≤ n ∧ n < 0xE000 then .half ⟨n - 0xD800, by omega⟩ else .char (Char.ofNat n)

theorem ofNat_toNat (p : Point) : ofNat p.toNat = p := by
  cases p with
  | char c =>
    have hc : c.toNat < 0xD800 ∨ 0xDFFF < c.toNat ∧ c.toNat < 0x110000 := c.valid
    rw [toNat, ofNat, dif_neg (by omega), Char.ofNat_toNat]
  | half h =>
    rw [toNat, ofNat, dif_pos (by omega)]
    exact congrArg half (Fin.ext (Nat.add_sub_cancel_left _ _))

/-- The scalar value that a point is. -/
def char? : Point → Option Char
  | .char c => some c
  | .half _ => none

@[simp]
theorem char?_char (c : Char) : (char c).char? = some c := rfl

@[simp]
theorem char?_comp_char : char? ∘ char = some := rfl

/-- Whether a point is a scalar value of a class. -/
def isIn (p : Char → Bool) : Point → Bool
  | .char c => p c
  | .half _ => false

/-- Whether a point is a decimal digit of ASCII. -/
def isDigit : Point → Bool := isIn Char.isDigit

/-- Whether a point is a letter of ASCII. -/
def isAlpha : Point → Bool := isIn Char.isAlpha

/-- Whether a point is a letter or a decimal digit of ASCII. -/
def isAlphanum : Point → Bool := isIn Char.isAlphanum

/-- A point with its scalar value changed. -/
def map (f : Char → Char) : Point → Point
  | .char c => .char (f c)
  | .half h => .half h

/-- A point as a small letter, if it is a letter of ASCII. -/
def toLower : Point → Point := map Char.toLower

/-- A point as a capital, if it is a letter of ASCII. -/
def toUpper : Point → Point := map Char.toUpper

@[simp]
theorem isDigit_char (c : Char) : (char c).isDigit = c.isDigit := rfl

instance : LT Point := ⟨fun p q => p.toNat < q.toNat⟩

instance : LE Point := ⟨fun p q => p.toNat ≤ q.toNat⟩

instance (p q : Point) : Decidable (p < q) := inferInstanceAs (Decidable (p.toNat < q.toNat))

instance (p q : Point) : Decidable (p ≤ q) := inferInstanceAs (Decidable (p.toNat ≤ q.toNat))

end Point

/-- A text: a string, and more behind each half of a surrogate pair. -/
inductive Text where
  | plain (s : String)
  | half (s : String) (h : Fin 2048) (rest : Text)
  deriving DecidableEq, Inhabited, Repr

namespace Text

instance : Coe String Text := ⟨.plain⟩

/-- The code points of a text. -/
protected def toList : Text → List Point
  | .plain s => s.toList.map .char
  | .half s h rest => s.toList.map .char ++ .half h :: rest.toList

/-- The text of some scalar values, the last one first, and the code points behind them. -/
def ofListBehind (front : List Char) : List Point → Text
  | [] => .plain (String.ofList front.reverse)
  | .char c :: ps => ofListBehind (c :: front) ps
  | .half h :: ps => .half (String.ofList front.reverse) h (ofListBehind [] ps)

/-- The text of a row of code points. -/
protected def ofList (ps : List Point) : Text := ofListBehind [] ps

/-- One text behind another one. -/
protected def append : Text → Text → Text
  | .plain s, .plain t => .plain (s ++ t)
  | .plain s, .half t h rest => .half (s ++ t) h rest
  | .half s h rest, t => .half s h (rest.append t)

instance : Append Text := ⟨Text.append⟩

/-- How many code points a text has. -/
protected def length (t : Text) : Nat := t.toList.length

/-- Whether a text has no code points. -/
protected def isEmpty (t : Text) : Bool := t == ""

/-- Texts one behind the other. -/
protected def join : List Text → Text
  | [] => ""
  | t :: ts => t ++ Text.join ts

/-- Texts with another one between them. -/
protected def intercalate (separator : Text) : List Text → Text
  | [] => ""
  | [t] => t
  | t :: ts => t ++ (separator ++ separator.intercalate ts)

/-- Texts are ordered by the codes of their points. -/
instance : LT Text := ⟨fun s t => s.toList < t.toList⟩

instance (s t : Text) : Decidable (s < t) := inferInstanceAs (Decidable (s.toList < t.toList))

instance : LE Text := ⟨fun s t => s.toList ≤ t.toList⟩

instance (s t : Text) : Decidable (s ≤ t) := inferInstanceAs (Decidable (s.toList ≤ t.toList))

instance : Ord Text := ⟨fun s t => compareOfLessAndEq s t⟩

/-! ### Texts and rows of code points -/

variable {s t : Text} {ps qs : List Point}

@[simp]
theorem toList_plain (s : String) : (plain s).toList = s.toList.map .char := rfl

@[simp]
theorem length_toList : s.toList.length = s.length := rfl

theorem toList_ofListBehind (front : List Char) (ps : List Point) :
    (ofListBehind front ps).toList = front.reverse.map .char ++ ps := by
  fun_induction ofListBehind front ps with
  | case1 front => simp
  | case2 front c ps ih => simp [ih]
  | case3 front h ps ih => simp [Text.toList, ih]

@[simp]
theorem toList_ofList : (Text.ofList ps).toList = ps := toList_ofListBehind [] ps

/-- Scalar values in front of code points are put in front of their text. -/
theorem ofListBehind_map_append (cs front : List Char) (ps : List Point) :
    ofListBehind front (cs.map .char ++ ps) = ofListBehind (cs.reverse ++ front) ps := by
  induction cs generalizing front with
  | nil => rfl
  | cons c cs ih =>
    rw [List.map_cons, List.cons_append, ofListBehind, ih, List.reverse_cons, List.append_assoc]
    rfl

@[simp]
theorem ofList_toList : Text.ofList t.toList = t := by
  rw [Text.ofList]
  induction t with
  | plain s =>
    have h := ofListBehind_map_append s.toList [] []
    rw [List.append_nil, List.append_nil] at h
    rw [Text.toList, h, ofListBehind, List.reverse_reverse, String.ofList_toList]
  | half s h rest ih =>
    rw [Text.toList, ofListBehind_map_append, List.append_nil, ofListBehind, List.reverse_reverse,
      String.ofList_toList, ih]

/-- Texts of the same code points are the same. -/
theorem toList_inj : s.toList = t.toList ↔ s = t := by
  constructor
  · intro h
    rw [← ofList_toList (t := s), h, ofList_toList]
  · exact congrArg Text.toList

@[ext]
theorem ext (h : s.toList = t.toList) : s = t := toList_inj.1 h

@[simp]
theorem length_ofList : (Text.ofList ps).length = ps.length := by
  rw [← length_toList, toList_ofList]

@[simp]
theorem toList_append (s t : Text) : (s ++ t).toList = s.toList ++ t.toList := by
  change (s.append t).toList = _
  fun_induction Text.append s t with
  | case1 s t => simp
  | case2 s t h rest => simp [Text.toList]
  | case3 s h rest t ih => simp [Text.toList, ih]

theorem ofList_append : Text.ofList (ps ++ qs) = Text.ofList ps ++ Text.ofList qs := by
  ext
  simp

theorem append_assoc (s t u : Text) : s ++ t ++ u = s ++ (t ++ u) := by
  ext
  simp

theorem toList_empty : ("" : Text).toList = [] := rfl

@[simp]
theorem empty_append : "" ++ t = t := by
  ext
  simp

@[simp]
theorem toList_eq_nil_iff : t.toList = [] ↔ t = "" := by
  rw [← toList_inj, toList_empty]

theorem append_eq_empty_iff : s ++ t = "" ↔ s = "" ∧ t = "" := by
  rw [← toList_eq_nil_iff, toList_append, List.append_eq_nil_iff, toList_eq_nil_iff,
    toList_eq_nil_iff]

@[simp]
theorem isEmpty_iff : t.isEmpty = true ↔ t = "" := beq_iff_eq

theorem join_cons (t : Text) (ts : List Text) : Text.join (t :: ts) = t ++ Text.join ts := rfl

theorem toList_join (ts : List Text) : (Text.join ts).toList = ts.flatMap Text.toList := by
  induction ts with
  | nil => rfl
  | cons t ts ih => rw [join_cons, toList_append, ih, List.flatMap_cons]

theorem toList_intercalate (separator : Text) (ts : List Text) :
    (separator.intercalate ts).toList = separator.toList.intercalate (ts.map Text.toList) := by
  fun_induction Text.intercalate separator ts with
  | case1 => rfl
  | case2 t => simp
  | case3 t ts hne ih =>
    rw [toList_append, toList_append, ih, List.map_cons,
      List.intercalate_cons_of_ne_nil (by simpa using hne), List.append_assoc]

end Text

end Admission
