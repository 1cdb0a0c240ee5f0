import Admission.Document.Reader
import Admission.Document.Writer
import Admission.Proofs.Numeral

/-!
# Texts and numbers as they are written

A text is written between quotes, each code point as itself or as an escape, and a number in its
digits. Both are read as they were written, where something follows that is no part of them.

* `Document.Written`, `Document.ReadAs`: the ways to write a code point, and what it is read as.
* `Document.readUnits_writeChar`: **a code point is read as it was written,** whatever follows it.
* `Document.joinPairs_of_readAs`: no two code points are read as one.
* `Document.readText_textBody`: **a text is read as it was written.**
* `Document.Clear`: what may follow a value.
* `Document.readPlain_writeInt`: **an integer is read as it was written.**
* `Document.AllPrinted`: rows without control characters, as texts and integers are written.
-/

namespace Admission.Document

open Admission.Decimal Admission.Text

/-! ### Texts -/

/-- The hexadecimal digits of a control character. -/
theorem hexPadded_control : ∀ n < 0x20, hexPadded 4 n =
    [.char '0', .char '0', .char (Nat.digitChar (n / 16)), .char (Nat.digitChar (n % 16))] := by
  decide

theorem hexValue?_digitChar : ∀ n < 16, hexValue? (.char (Nat.digitChar n)) = some n := by
  decide

/-- One more part before the parts of a text. -/
def andUnit (unit : CodeUnit) : List CodeUnit × List Point → List CodeUnit × List Point
  | (units, rest) => (unit :: units, rest)

/-- The ways to write a code point between quotes. -/
inductive Written (c : Point) : List Point → Prop
  /-- An escape of one letter. -/
  | letter {l : Point} (code : escaped? l = some c) (printable : 0x20 ≤ l.toNat) :
      Written c ['\\', l]
  /-- An escape of four hexadecimal digits, for a control character. -/
  | digits (control : c.toNat < 0x20) : Written c ('\\' :: 'u' :: hexPadded 4 c.toNat)
  /-- The code point itself. -/
  | itself (quote : c ≠ '\x22') (slash : c ≠ '\\') (printable : 0x20 ≤ c.toNat) : Written c [c]

/-- The parts of a text that a code point is read as. -/
inductive ReadAs (c : Point) : CodeUnit → Prop
  | point : ReadAs c (.point c)
  /-- A control character is read as its code. -/
  | code (control : c.toNat < 0x20) : ReadAs c (.code c.toNat)

theorem written_writeChar (c : Point) : Written c (writeChar c) := by
  unfold writeChar
  iterate 7
    split
    · next h =>
      subst h
      exact .letter (by decide) (by decide)
  split
  · next h => exact .digits h
  · next hquote hslash _ _ _ _ _ hcontrol => exact .itself hquote hslash (Nat.le_of_not_lt hcontrol)

theorem readUnits_letter {l c : Point} (h : escaped? l = some c) (tail : List Point) :
    readUnits ('\\' :: l :: tail) = (readUnits tail).map (andUnit (.point c)) := by
  have hu : l ≠ 'u' := by
    rintro rfl
    cases h
  rw [readUnits]
  · rw [h]
    cases readUnits tail <;> rfl
  · intro a b c d rest hl
    exact absurd hl hu

theorem readUnits_digits {n : Nat} (h : n < 0x20) (tail : List Point) :
    readUnits ('\\' :: 'u' :: (hexPadded 4 n ++ tail)) =
      (readUnits tail).map (andUnit (.code n)) := by
  have hhigh := hexValue?_digitChar (n / 16) (by omega)
  have hlow := hexValue?_digitChar (n % 16) (by omega)
  have hzero : hexValue? '0' = some 0 := by decide
  have hcode : (0 * 16 + 0) * 256 + n / 16 * 16 + n % 16 = n := by omega
  rw [hexPadded_control n h]
  simp only [List.cons_append, List.nil_append, readUnits, hzero, hhigh, hlow,
    Option.bind_eq_bind, Option.bind_some, hcode]
  cases readUnits tail <;> rfl

theorem readUnits_itself {c : Point} (hquote : c ≠ '\x22') (hslash : c ≠ '\\')
    (hprintable : 0x20 ≤ c.toNat) (tail : List Point) :
    readUnits (c :: tail) = (readUnits tail).map (andUnit (.point c)) := by
  have hcontrol : ¬(c = '\\' ∨ c.toNat < 0x20) := by
    rintro (h | h)
    · exact hslash h
    · omega
  rw [readUnits]
  · rw [if_neg hquote, if_neg hcontrol]
    cases readUnits tail <;> rfl
  · intro a b x d rest h
    exact absurd h hslash
  · intro x rest h
    exact absurd h hslash

/-- **A code point is read as it was written,** whatever follows it. -/
theorem readUnits_writeChar (c : Point) : ∃ unit, ReadAs c unit ∧
    ∀ tail, readUnits (writeChar c ++ tail) = (readUnits tail).map (andUnit unit) := by
  have hw := written_writeChar c
  generalize writeChar c = row at hw
  cases hw with
  | letter code _ => exact ⟨_, .point, readUnits_letter code⟩
  | digits control => exact ⟨_, .code control, readUnits_digits control⟩
  | itself quote slash printable => exact ⟨_, .point, readUnits_itself quote slash printable⟩

/-- The parts of a text up to the quote that closes it. -/
theorem readUnits_flatMap (cs rest : List Point) : ∃ units, List.Forall₂ ReadAs cs units ∧
    readUnits (cs.flatMap writeChar ++ .char '\x22' :: rest) = some (units, rest) := by
  induction cs with
  | nil => exact ⟨[], .nil, by simp [readUnits]⟩
  | cons c cs ih =>
    obtain ⟨units, hunits, hread⟩ := ih
    obtain ⟨unit, hunit, hfront⟩ := readUnits_writeChar c
    refine ⟨unit :: units, .cons hunit hunits, ?_⟩
    rw [List.flatMap_cons, List.append_assoc, hfront, hread]
    rfl

/-- **What code points are read as is joined to these code points:** where halves of surrogate pairs
stand next to each other, none of them is read from its code. -/
theorem joinPairs_of_readAs {cs : List Point} {units : List CodeUnit}
    (h : List.Forall₂ ReadAs cs units) : joinPairs units = cs := by
  induction h with
  | nil => rfl
  | @cons c unit cs units hunit _ ih =>
    cases hunit with
    | point => rw [joinPairs, ih]
    | code control =>
      have hlow : ∀ low rest, units = .code low :: rest →
          ¬(0xD800 ≤ c.toNat ∧ c.toNat < 0xDC00 ∧ 0xDC00 ≤ low ∧ low < 0xE000) := by
        intros
        omega
      cases units with
      | nil => rw [joinPairs, ih, Point.ofNat_toNat]; exact fun _ _ h => nomatch h
      | cons unit units =>
        cases unit with
        | code low => rw [joinPairs, if_neg (hlow low units rfl), ih, Point.ofNat_toNat]
        | point p => rw [joinPairs, ih, Point.ofNat_toNat]; exact fun _ _ h => nomatch h

/-- What stands behind the quote that opens a text. -/
def textBody (s : Text) : List Point := s.toList.flatMap writeChar ++ [.char '\x22']

theorem writeText_eq (s : Text) : writeText s = .char '\x22' :: textBody s := rfl

/-- **A text is read as it was written.** -/
theorem readText_textBody (s : Text) (rest : List Point) :
    readText (textBody s ++ rest) = .ok (s, rest) := by
  obtain ⟨units, hunits, hread⟩ := readUnits_flatMap s.toList rest
  rw [textBody, List.append_assoc, List.singleton_append, readText, hread]
  simp only [joinPairs_of_readAs hunits, Text.ofList_toList]

/-! ### Numbers -/

/-- What may stand behind a value: nothing, or what goes on with a list or object. -/
def Clear (rest : List Point) : Prop := ∀ c ∈ rest.head?, c = ',' ∨ c = ']' ∨ c = '}'

theorem clear_nil : Clear [] := by
  intro c hc
  cases hc

theorem clear_cons {c : Point} {rest : List Point} (h : c = ',' ∨ c = ']' ∨ c = '}') :
    Clear (c :: rest) := by
  intro d hd
  cases hd
  exact h

namespace Clear

variable {rest : List Point}

/-- It is no part of a number. -/
theorem not_number (h : Clear rest) : (∀ c ∈ rest.head?, c.isDigit = false) ∧
    fraction? rest = none ∧ exponent? rest = none := by
  cases rest with
  | nil =>
    refine ⟨fun c hc => ?_, rfl, rfl⟩
    cases hc
  | cons c rest =>
    rcases h c rfl with rfl | rfl | rfl
    all_goals
      refine ⟨fun d hd => ?_, rfl, rfl⟩
      cases hd
      decide

/-- It is no white space. -/
theorem skipSpace_eq (h : Clear rest) : skipSpace rest = rest := by
  cases rest with
  | nil => rfl
  | cons c rest => rcases h c rfl with rfl | rfl | rfl <;> rfl

end Clear

theorem isDigit_writeNat (n : Nat) : ∀ c ∈ writeNat n, c.isDigit := by
  intro c hc
  obtain ⟨d, hd, rfl⟩ := List.mem_map.1 hc
  exact Nat.isDigit_of_mem_toDigits (by decide) (by decide) hd

/-- The number of a row of digits as it is printed. -/
theorem natOf_writeNat (n : Nat) : natOf (writeNat n) = n := by
  have h : natOf (writeNat n) = Nat.ofDigitChars 10 (Nat.toDigits 10 n) 0 := by
    rw [natOf, natOfDigits, writeNat, List.foldl_map, List.foldl_map, Nat.ofDigitChars_eq_foldl]
    rfl
  rw [h, Nat.ofDigitChars_toDigits (by decide) (by decide)]

theorem writeNat_ne_nil (n : Nat) : writeNat n ≠ [] := mt List.map_eq_nil_iff.1 Nat.toDigits_ne_nil

theorem writeNat_zero : writeNat 0 = [.char '0'] := rfl

theorem length_writeNat (n : Nat) : (writeNat n).length = (Nat.toDigits 10 n).length :=
  List.length_map _

/-- A number of two digits or more is written with those of its tens in front. -/
theorem writeNat_of_le {n : Nat} (h : 10 ≤ n) :
    writeNat n = writeNat (n / 10) ++ [.char (Nat.digitChar (n % 10))] := by
  rw [writeNat, Nat.toDigits_of_base_le (by decide) h, List.map_append]
  rfl

/-- No number but zero is printed with a zero in front. -/
theorem writeNat_head {n : Nat} (hn : n ≠ 0) : ∀ c ∈ (writeNat n).head?, c ≠ '0' := by
  induction n using Nat.strong_induction_on with
  | _ n ih =>
    by_cases hlt : n < 10
    · have hdigit : ∀ d < 10, d ≠ 0 → Point.char (Nat.digitChar d) ≠ '0' := by decide
      rw [writeNat, Nat.toDigits_of_lt_base hlt]
      intro c hc
      cases hc
      exact hdigit n hlt hn
    · rw [writeNat_of_le (by omega), List.head?_append_of_ne_nil _ (writeNat_ne_nil _)]
      exact ih (n / 10) (by omega) (by omega)

/-- The digits at the front of a printed number are all of its digits. -/
theorem digitsOf_writeNat (n : Nat) {rest : List Point} (hrest : Clear rest) :
    digitsOf (writeNat n ++ rest) = (writeNat n, rest) := by
  obtain ⟨htake, hdrop⟩ := takeWhile_run (isDigit_writeNat n) hrest.not_number.1
  rw [digitsOf, htake, hdrop]

/-- **A number without a sign is read as it was printed.** -/
theorem readNumber_writeNat (negative : Bool) {n : Nat} {rest : List Point} (hrest : Clear rest)
    (hn : (writeNat n).length ≤ digitLimit) :
    readNumber negative (writeNat n ++ rest) =
      .ok (.int (if negative then -(n : Int) else n), rest) := by
  obtain ⟨-, hfraction, hexponent⟩ := hrest.not_number
  have hne : (writeNat n).isEmpty = false := List.isEmpty_eq_false_iff.2 (writeNat_ne_nil n)
  have hlimit : ¬(writeNat n).length > digitLimit := by omega
  unfold readNumber
  split
  next whole cs hwhole =>
    have hrow : (writeNat n, rest) = (whole, cs) := by
      rw [← hwhole]
      split
      · next tail htail =>
        -- a zero in front is the whole number
        by_cases hzero : n = 0
        · subst hzero
          rw [writeNat_zero, List.singleton_append, List.cons.injEq] at htail
          rw [writeNat_zero, htail.2]
        · have hfront : (writeNat n).head? = some (.char '0') := by
            have happend : (writeNat n ++ rest).head? = (writeNat n).head? :=
              List.head?_append_of_ne_nil _ (writeNat_ne_nil n)
            rw [← happend, htail, List.head?_cons]
          exact absurd rfl (writeNat_head hzero '0' hfront)
      · exact (digitsOf_writeNat n hrest).symm
    cases hrow
    simp only [hne, hfraction, hexponent, if_neg hlimit, natOf_writeNat, Bool.false_eq_true,
      if_false]

/-- A printed number begins with a digit. -/
theorem exists_writeNat (n : Nat) : ∃ c ds, writeNat n = c :: ds ∧ c.isDigit := by
  have hdigit := isDigit_writeNat n
  cases hrow : writeNat n with
  | nil => exact absurd hrow (writeNat_ne_nil n)
  | cons c ds =>
    rw [hrow] at hdigit
    exact ⟨c, ds, rfl, hdigit c List.mem_cons_self⟩

/-- No word begins with a digit, with or without a sign. -/
theorem find?_constants {c : Point} (hc : c.isDigit) (cs : List Point) :
    (constants.find? fun (word, _) => word.isPrefixOf (c :: cs)) = none ∧
      (constants.find? fun (word, _) => word.isPrefixOf (.char '-' :: c :: cs)) = none := by
  have hne : ∀ w : Point, w.isDigit = false → (w == c) = false := by
    intro w hw
    refine beq_false_of_ne ?_
    rintro rfl
    rw [hw] at hc
    cases hc
  have hn := hne 'n' (by decide)
  have ht := hne 't' (by decide)
  have hf := hne 'f' (by decide)
  have hN := hne 'N' (by decide)
  have hI := hne 'I' (by decide)
  have hminus := hne '-' (by decide)
  simp [constants, List.find?, List.isPrefixOf, hn, ht, hf, hN, hI, hminus]

/-- **An integer is read as it was written.** -/
theorem readPlain_writeInt {n : Int} {rest : List Point} (hrest : Clear rest)
    (hn : (writeNat n.natAbs).length ≤ digitLimit) :
    readPlain (writeInt n ++ rest) = .ok (.int n, rest) := by
  obtain ⟨c, ds, hrow, hc⟩ := exists_writeNat n.natAbs
  have hread := fun negative => readNumber_writeNat negative hrest hn
  rw [hrow, List.cons_append] at hread
  obtain ⟨hplain, hsigned⟩ := find?_constants hc (ds ++ rest)
  rw [writeInt, hrow]
  by_cases hneg : n < 0
  · have hvalue : -(n.natAbs : Int) = n := by omega
    have h := hread true
    rw [if_pos rfl, hvalue] at h
    rw [if_pos hneg, List.cons_append, List.cons_append, readPlain, hsigned]
    exact h
  · have hvalue : (n.natAbs : Int) = n := by omega
    have h := hread false
    rw [if_neg Bool.false_ne_true, hvalue] at h
    rw [if_neg hneg, List.cons_append, readPlain, hplain]
    · exact h
    · intro cs hcs
      rw [(List.cons.inj hcs).1] at hc
      exact absurd hc (by decide)

/-! ### Control characters -/

/-- A row of characters without a control character below U+0020. -/
def AllPrinted (cs : List Point) : Prop := ∀ c ∈ cs, 0x20 ≤ c.toNat

namespace AllPrinted

variable {c : Point} {cs cs' : List Point}

theorem nil : AllPrinted [] := by
  intro c hc
  cases hc

theorem of_all (h : (cs.all fun c => decide (0x20 ≤ c.toNat)) = true) : AllPrinted cs :=
  fun c hc => of_decide_eq_true (List.all_eq_true.1 h c hc)

theorem cons (hc : 0x20 ≤ c.toNat) (h : AllPrinted cs) : AllPrinted (c :: cs) :=
  List.forall_mem_cons.2 ⟨hc, h⟩

theorem append (h : AllPrinted cs) (h' : AllPrinted cs') : AllPrinted (cs ++ cs') :=
  List.forall_mem_append.2 ⟨h, h'⟩

theorem writeNat (n : Nat) : AllPrinted (writeNat n) := by
  intro c hc
  obtain ⟨d, hd, rfl⟩ := List.mem_map.1 hc
  have hdigit : d.isDigit = true := Nat.isDigit_of_mem_toDigits (by decide) (by decide) hd
  rw [Char.isDigit, Bool.and_eq_true, decide_eq_true_eq] at hdigit
  have hle : 48 ≤ d.toNat := hdigit.1
  rw [Point.toNat]
  omega

theorem writeInt (n : Int) : AllPrinted (writeInt n) := by
  rw [Document.writeInt]
  split
  · exact cons (by decide) (writeNat _)
  · exact writeNat _

theorem writeChar (c : Point) : AllPrinted (writeChar c) := by
  have hw := written_writeChar c
  generalize Document.writeChar c = row at hw
  cases hw with
  | letter _ printable => exact cons (by decide) (cons printable nil)
  | digits control =>
    have hdigit : ∀ d < 16, 0x20 ≤ (Point.char (Nat.digitChar d)).toNat := by decide
    have hhigh := hdigit (c.toNat / 16) (by omega)
    have hlow := hdigit (c.toNat % 16) (by omega)
    rw [hexPadded_control _ control]
    refine cons (by decide) (cons (by decide) (cons (by decide) (cons (by decide) ?_)))
    exact cons hhigh (cons hlow nil)
  | itself _ _ printable => exact cons printable nil

theorem writeText (s : Text) : AllPrinted (writeText s) := by
  refine cons (by decide) (append ?_ (cons (by decide) nil))
  intro c hc
  obtain ⟨x, -, hx⟩ := List.mem_flatMap.1 hc
  exact writeChar x c hx

end AllPrinted

end Admission.Document
