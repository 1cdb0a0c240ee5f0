import Admission.Proofs.Gather
import Admission.Proofs.Numeral
import Admission.Time.Duration

/-!
# The texts of durations

A grammar of the texts that write durations, beside the reader that sums their segments. The
grammar leaves open which characters are digits; the reader takes those of every script.

* `Piece`, `Row`, `Writes`: the texts of one segment, of a row of segments and of a duration.
* `Piece.leads`, `Leads.piece`: the segments that are read are those of the grammar. A unit ends
  where the next segment begins, as no digit is a unit character.
* `sum_eq_ok_iff`: the loop over the segments adds up the row that is left, within the bound.
* `parse_eq_ok_iff`: what is read is what the grammar writes.
* `parse_readsDurations`: **durations are read from their texts, and from no others.**
-/

namespace Admission.Time.Duration

open Admission.Text

/-! ### The grammar -/

/-- The two ways to write a segment: without a point if it has no fraction, and with one. -/
inductive Segment.Text (s : Segment) : List Point → Prop where
  | plain (h : s.fraction = []) : s.Text (s.whole ++ s.unit)
  | pointed : s.Text (s.whole ++ Point.char '.' :: (s.fraction ++ s.unit))

/-- **The text of a segment and its nanoseconds**: a decimal number, with a digit before or after
its point, in a unit. The fraction is rounded down to nanoseconds. -/
inductive Piece (digit? : Point → Option Nat) : List Point → Nat → Prop where
  | mk {s : Segment} {cs : List Point} {scale whole fraction : Nat} (text : s.Text cs)
      (digits : s.whole ≠ [] ∨ s.fraction ≠ [])
      (wholeShort : s.whole.length ≤ digitLimit) (fractionShort : s.fraction.length ≤ digitLimit)
      (unit : units.lookup (Text.ofList s.unit) = some scale)
      (wholeNumber : Numeral digit? s.whole whole)
      (fractionNumber : Numeral digit? s.fraction fraction) :
      Piece digit? cs (whole * scale + fraction * scale / 10 ^ s.fraction.length)

/-- **The text of a row of segments and the sum of their nanoseconds.** -/
inductive Row (digit? : Point → Option Nat) : List Point → Nat → Prop where
  | nil : Row digit? [] 0
  | cons {cs rest : List Point} {n total : Nat} (head : Piece digit? cs n)
      (tail : Row digit? rest total) : Row digit? (cs ++ rest) (n + total)

/-- The sign of a duration, which may be left out. -/
inductive Sign where
  | none | plus | minus
  deriving DecidableEq, Repr

/-- The text of a sign. -/
def Sign.text : Sign → List Point
  | .none => []
  | .plus => ['+']
  | .minus => ['-']

/-- The most nanoseconds that a duration with this sign can have. -/
def Sign.most : Sign → Nat
  | .none | .plus => 2 ^ 63 - 1
  | .minus => 2 ^ 63

/-- A number of nanoseconds with a sign. -/
def Sign.apply : Sign → Nat → Int
  | .none, n | .plus, n => n
  | .minus, n => -n

/-- **The text of a duration and its nanoseconds**: a sign, and behind it the digit 0 or a row of
segments that does not exceed 64 bits. -/
inductive Writes (digit? : Point → Option Nat) : List Point → Int → Prop where
  | zero (s : Sign) : Writes digit? (s.text ++ [Point.char '0']) 0
  | row (s : Sign) {cs : List Point} {total : Nat} (segments : Row digit? cs total)
      (nonempty : cs ≠ []) (bounded : total ≤ s.most) : Writes digit? (s.text ++ cs) (s.apply total)

variable {digit? : Point → Option Nat} {cs : List Point} {n total : Nat} {v : Int}

/-- A row is empty, or a segment and the row behind it. -/
theorem row_iff : Row digit? cs total ↔ (cs = [] ∧ total = 0) ∨
    ∃ text n rest left, Piece digit? text n ∧ Row digit? rest left ∧
      cs = text ++ rest ∧ total = n + left := by
  constructor
  · rintro (_ | ⟨head, tail⟩)
    · exact .inl ⟨rfl, rfl⟩
    · exact .inr ⟨_, _, _, _, head, tail, rfl, rfl⟩
  · rintro (⟨rfl, rfl⟩ | ⟨text, n, rest, left, head, tail, rfl, rfl⟩)
    · exact .nil
    · exact .cons head tail

/-- Rows behind one another are a row. -/
theorem Row.append {cs' : List Point} {total' : Nat} (h : Row digit? cs total)
    (h' : Row digit? cs' total') : Row digit? (cs ++ cs') (total + total') := by
  induction h with
  | nil => simpa using h'
  | cons head _ ih =>
    rw [List.append_assoc, Nat.add_assoc]
    exact cons head ih

/-- The texts of segments behind one another are a row. -/
theorem row_flatten (parts : List (List Point × Nat)) (h : ∀ p ∈ parts, Piece digit? p.1 p.2) :
    Row digit? (parts.map Prod.fst).flatten (parts.map Prod.snd).sum := by
  induction parts with
  | nil => exact .nil
  | cons p parts ih =>
    have htail := ih fun q hq => h q (List.mem_cons_of_mem p hq)
    exact .cons (h p List.mem_cons_self) htail

/-! ### One segment -/

/-- No digit is a unit character: those of other scripts come behind all unit characters. -/
theorem isUnitChar_of_isDecimalDigit {c : Point} (h : isDecimalDigit c) : isUnitChar c = false := by
  -- the digits behind those of ASCII start at U+0660, the unit characters end at U+03BC
  have hz : ∀ z ∈ digitZeros, z = 0x30 ∨ 0x660 ≤ z := by decide
  obtain ⟨d, hd⟩ := Option.isSome_iff_exists.1 h
  obtain ⟨z, hfind, -⟩ := Option.map_eq_some_iff.1 hd
  have hmem := hz z (List.mem_of_find?_eq_some hfind)
  have hc := List.find?_some hfind
  simp only [decide_eq_true_eq] at hc
  have hrange : c.toNat < 0x3A ∨ 0x660 ≤ c.toNat := by omega
  rw [Bool.eq_false_iff]
  intro hu
  simp only [isUnitChar, Bool.or_eq_true, Bool.and_eq_true, decide_eq_true_eq, beq_iff_eq] at hu
  rcases hu with (⟨ha, hz⟩ | rfl) | rfl
  · have ha : 0x61 ≤ c.toNat := ha
    have hz : c.toNat ≤ 0x7A := hz
    omega
  · revert hrange; decide
  · revert hrange; decide

/-- The units are written with unit characters. -/
theorem unit_of_lookup {unit : List Point} {scale : Nat}
    (h : units.lookup (Text.ofList unit) = some scale) :
    unit ≠ [] ∧ ∀ c ∈ unit, isUnitChar c := by
  have hall : units.all fun p => !p.1.toList.isEmpty && p.1.toList.all isUnitChar := by decide
  obtain ⟨before, after, heq, -⟩ := List.lookup_eq_some_iff.1 h
  have hmem : (Text.ofList unit, scale) ∈ units := by
    rw [heq]
    exact List.mem_append_right before List.mem_cons_self
  have hunit := List.all_eq_true.1 hall _ hmem
  rw [Bool.and_eq_true, Bool.not_eq_true', List.isEmpty_eq_false_iff, List.all_eq_true,
    Text.toList_ofList] at hunit
  exact hunit

namespace Segment

/-- A segment is read from its text, whatever follows that does not go on with the unit. -/
theorem read_of_text {s : Segment} {rest : List Point} (ht : s.Text cs)
    (hw : ∀ c ∈ s.whole, isDecimalDigit c) (hf : ∀ c ∈ s.fraction, isDecimalDigit c)
    (hne : s.unit ≠ []) (hu : ∀ c ∈ s.unit, isUnitChar c)
    (hrest : ∀ c ∈ rest.head?, isUnitChar c = false) : read (cs ++ rest) = (s, rest) := by
  obtain ⟨whole, fraction, unit⟩ := s
  obtain ⟨u, us, rfl⟩ := List.exists_cons_of_ne_nil hne
  -- no digit is a unit character, so the digits end where the unit begins
  have hud : ∀ c ∈ (u :: us ++ rest).head?, isDecimalDigit c = false := by
    rintro c ⟨⟩
    rw [Bool.eq_false_iff]
    intro hc
    have := isUnitChar_of_isDecimalDigit hc
    rw [hu u List.mem_cons_self] at this
    cases this
  obtain ⟨hunit, hafter⟩ := takeWhile_run hu hrest
  cases ht with
  | plain h =>
    obtain rfl : fraction = [] := h
    obtain ⟨hwhole, hbehind⟩ := takeWhile_run hw hud
    have hpoint : u ≠ '.' := by
      rintro rfl
      exact absurd (hu '.' List.mem_cons_self) (by decide)
    rw [read, List.append_assoc, hwhole, hbehind]
    simp only [List.cons_append] at hunit hafter ⊢
    split
    · next heq => exact absurd (List.cons.inj heq).1 hpoint
    · rw [hunit, hafter]
  | pointed =>
    have hpoint : ∀ c ∈ (Point.char '.' :: (fraction ++ (u :: us ++ rest))).head?,
        isDecimalDigit c = false := by
      rintro c ⟨⟩
      decide
    obtain ⟨hwhole, hbehind⟩ := takeWhile_run hw hpoint
    obtain ⟨hfraction, hthen⟩ := takeWhile_run hf hud
    rw [read, List.append_assoc, List.cons_append, List.append_assoc, hwhole, hbehind]
    simp only [hfraction, hthen, hunit, hafter]

/-- What is read is a segment, from its text at the front. -/
theorem text_of_read (cs : List Point) : ∃ text, (read cs).1.Text text ∧ cs = text ++ (read cs).2 ∧
    (∀ c ∈ (read cs).1.whole, isDecimalDigit c) ∧
    ∀ c ∈ (read cs).1.fraction, isDecimalDigit c := by
  have hsplit := List.takeWhile_append_dropWhile (p := isDecimalDigit) (l := cs)
  have hwhole : ∀ c ∈ cs.takeWhile isDecimalDigit, isDecimalDigit c :=
    fun c hc => List.mem_takeWhile_imp hc
  unfold read
  dsimp only
  split
  · next rest heq =>
    refine ⟨_, .pointed, ?_, hwhole, fun c hc => List.mem_takeWhile_imp hc⟩
    simp only [List.append_assoc, List.cons_append, List.takeWhile_append_dropWhile]
    rw [← heq, hsplit]
  · refine ⟨_, .plain rfl, ?_, hwhole, fun c hc => absurd hc List.not_mem_nil⟩
    simp only [List.append_assoc, List.takeWhile_append_dropWhile]

/-- A row of digits has a number if it is not too long. -/
theorem digitsValue_eq_ok_iff {ds : List Point} (hd : ∀ c ∈ ds, isDecimalDigit c) :
    digitsValue ds = .ok n ↔ ds.length ≤ digitLimit ∧ Numeral decimalDigit? ds n := by
  rw [numeral_read hd, digitsValue]
  by_cases h : ds.length > digitLimit
  · rw [if_pos h]
    exact ⟨nofun, fun hn => absurd hn.1 (by omega)⟩
  · rw [if_neg h, Except.ok.injEq]
    exact ⟨fun hn => ⟨by omega, hn.symm⟩, fun hn => hn.2.symm⟩

theorem nanos_eq_ok_iff {s : Segment} {scale : Nat} : s.nanos scale = .ok n ↔
    ∃ whole, digitsValue s.whole = .ok whole ∧ ∃ fraction, digitsValue s.fraction = .ok fraction ∧
      whole * scale + fraction * scale / 10 ^ s.fraction.length = n := by
  simp only [nanos, Except.bind_eq_ok_iff, pure, Except.pure, Except.ok.injEq, Nat.pow_eq]

end Segment

/-- **The segment at the front** is well formed, has `n` nanoseconds, and leaves `rest` behind. -/
structure Leads (cs : List Point) (n : Nat) (rest : List Point) : Prop where
  rest : (Segment.read cs).2 = rest
  unit : (Segment.read cs).1.unit ≠ []
  digits : ¬ ((Segment.read cs).1.whole = [] ∧ (Segment.read cs).1.fraction = [])
  nanos : ∃ scale, units.lookup (Text.ofList (Segment.read cs).1.unit) = some scale ∧
    (Segment.read cs).1.nanos scale = .ok n

/-- A segment that is read is one of the grammar. -/
theorem Leads.piece {rest : List Point} (h : Leads cs n rest) :
    ∃ text, Piece decimalDigit? text n ∧ cs = text ++ rest := by
  obtain ⟨text, htext, heq, hw, hf⟩ := Segment.text_of_read cs
  obtain ⟨scale, hunit, hnanos⟩ := h.nanos
  obtain ⟨whole, hwhole, fraction, hfraction, rfl⟩ := Segment.nanos_eq_ok_iff.1 hnanos
  rw [Segment.digitsValue_eq_ok_iff hw] at hwhole
  rw [Segment.digitsValue_eq_ok_iff hf] at hfraction
  have hdigits : (Segment.read cs).1.whole ≠ [] ∨ (Segment.read cs).1.fraction ≠ [] :=
    Decidable.not_and_iff_not_or_not.1 h.digits
  rw [h.rest] at heq
  exact ⟨text, .mk htext hdigits hwhole.1 hfraction.1 hunit hwhole.2 hfraction.2, heq⟩

/-- A segment of the grammar is read, whatever follows that does not go on with the unit. -/
theorem Piece.leads {rest : List Point} (h : Piece decimalDigit? cs n)
    (hrest : ∀ c ∈ rest.head?, isUnitChar c = false) : Leads (cs ++ rest) n rest := by
  obtain @⟨s, cs, scale, whole, fraction, text, digits, wholeShort, fractionShort, unit,
    wholeNumber, fractionNumber⟩ := h
  obtain ⟨hne, hu⟩ := unit_of_lookup unit
  have hw := wholeNumber.isSome
  have hf := fractionNumber.isSome
  have hread := Segment.read_of_text text hw hf hne hu hrest
  have hwhole := (Segment.digitsValue_eq_ok_iff hw).2 ⟨wholeShort, wholeNumber⟩
  have hfraction := (Segment.digitsValue_eq_ok_iff hf).2 ⟨fractionShort, fractionNumber⟩
  constructor
  · rw [hread]
  · rwa [hread]
  · rw [hread]
    exact Decidable.not_and_iff_not_or_not.2 digits
  · rw [hread]
    exact ⟨scale, unit, Segment.nanos_eq_ok_iff.2 ⟨whole, hwhole, fraction, hfraction, rfl⟩⟩

/-- The text of a segment begins with a digit or a point. -/
theorem Piece.head (h : Piece decimalDigit? cs n) :
    ∃ c rest, cs = c :: rest ∧ (isDecimalDigit c ∨ c = '.') := by
  obtain @⟨s, cs, scale, whole, fraction, text, digits, -, -, -, wholeNumber, -⟩ := h
  have hw := wholeNumber.isSome
  cases hs : s.whole with
  | cons c ds =>
    rw [hs] at hw
    cases text with
    | plain _ => exact ⟨c, _, by rw [hs]; rfl, .inl (hw c List.mem_cons_self)⟩
    | pointed => exact ⟨c, _, by rw [hs]; rfl, .inl (hw c List.mem_cons_self)⟩
  | nil =>
    cases text with
    | plain h => exact absurd (digits.resolve_left (absurd hs)) (absurd h)
    | pointed => exact ⟨'.', _, by rw [hs]; rfl, .inr rfl⟩

/-- The text of a segment is not empty. -/
theorem Piece.length_rest_lt {text rest : List Point} (h : Piece decimalDigit? text n)
    (heq : cs = text ++ rest) : rest.length < cs.length := by
  obtain ⟨c, more, rfl, -⟩ := h.head
  rw [heq, List.length_append, List.length_cons]
  omega

/-- The text of a segment has a digit and a unit. -/
theorem Piece.two_le_length (h : Piece digit? cs n) : 2 ≤ cs.length := by
  obtain @⟨s, cs, scale, whole, fraction, text, digits, -, -, unit, -, -⟩ := h
  have hunit := List.length_pos_iff.2 (unit_of_lookup unit).1
  cases text with
  | plain h =>
    have hwhole := List.length_pos_iff.2 (digits.resolve_right (absurd h))
    rw [List.length_append]
    omega
  | pointed =>
    simp only [List.length_append, List.length_cons]
    omega

/-- A row of segments is empty or begins with a digit or a point. -/
theorem Row.head (h : Row decimalDigit? cs total) :
    ∀ c ∈ cs.head?, isDecimalDigit c ∨ c = '.' := by
  cases h with
  | nil => exact fun c hc => absurd hc nofun
  | cons head _ =>
    obtain ⟨c, rest, rfl, hc⟩ := head.head
    rintro _ ⟨⟩
    exact hc

theorem Row.head_not_unit (h : Row decimalDigit? cs total) :
    ∀ c ∈ cs.head?, isUnitChar c = false := by
  intro c hc
  rcases h.head c hc with hd | rfl
  · exact isUnitChar_of_isDecimalDigit hd
  · decide

/-! ### The loop -/

/-- One round of the loop. -/
theorem sum_cons_eq_ok_iff {text : Text} {most more m : Nat} {c : Point} :
    sum text most (more + 1) total (c :: cs) = .ok m ↔ ∃ n rest, Leads (c :: cs) n rest ∧
      total + n ≤ most ∧ sum text most more (total + n) rest = .ok m := by
  rw [sum]
  generalize hread : Segment.read (c :: cs) = r
  obtain ⟨s, rest⟩ := r
  dsimp only
  constructor
  · intro h
    -- the tests in their order: a unit, digits, a known unit, short rows of digits, the bound
    split at h
    · cases h
    · next hs =>
      rw [not_or] at hs
      split at h
      · cases h
      · next scale hunit =>
        obtain ⟨n, hn, h⟩ := Except.bind_eq_ok_iff.1 h
        split at h
        · cases h
        · next hmost =>
          refine ⟨n, rest, ⟨?_, ?_, ?_, ?_⟩, by omega, h⟩
          · rw [hread]
          · rw [hread]; exact hs.1
          · rw [hread]; exact hs.2
          · rw [hread]; exact ⟨scale, hunit, hn⟩
  · rintro ⟨n, rest', ⟨hrest, hunit, hdigits, scale, hscale, hn⟩, hmost, h⟩
    rw [hread] at hrest hunit hdigits hscale hn
    obtain rfl : rest = rest' := hrest
    dsimp only at hunit hdigits hscale hn
    rw [if_neg (not_or.2 ⟨hunit, hdigits⟩), hscale]
    refine Except.bind_eq_ok_iff.2 ⟨n, hn, ?_⟩
    rw [if_neg (by omega)]
    exact h

/-- The loop ends where nothing is left. -/
theorem sum_nil_eq_ok_iff {text : Text} {most more m : Nat} (hmost : total ≤ most) :
    sum text most more total [] = .ok m ↔
      ∃ left, Row decimalDigit? [] left ∧ total + left ≤ most ∧ m = total + left := by
  rw [sum, Except.ok.injEq]
  constructor
  · rintro rfl
    exact ⟨0, .nil, hmost, rfl⟩
  · rintro ⟨left, hrow, -, rfl⟩
    rcases row_iff.1 hrow with ⟨-, rfl⟩ | ⟨text, n, rest, left, hpiece, -, heq, -⟩
    · rfl
    · have := hpiece.length_rest_lt heq
      cases this

/-- **The loop adds up the row that is left,** as long as the sum stays within the bound. The
first argument is large enough for every row. -/
theorem sum_eq_ok_iff {text : Text} {most m : Nat} (more : Nat) (hmore : cs.length ≤ more)
    (hmost : total ≤ most) : sum text most more total cs = .ok m ↔
      ∃ left, Row decimalDigit? cs left ∧ total + left ≤ most ∧ m = total + left := by
  induction more generalizing cs total with
  | zero =>
    obtain rfl : cs = [] := List.length_eq_zero_iff.1 (by omega)
    exact sum_nil_eq_ok_iff hmost
  | succ more ih =>
    cases cs with
    | nil => exact sum_nil_eq_ok_iff hmost
    | cons c cs =>
      rw [sum_cons_eq_ok_iff]
      constructor
      · rintro ⟨n, rest, hleads, hn, hrest⟩
        obtain ⟨text, hpiece, heq⟩ := hleads.piece
        have hshort := hpiece.length_rest_lt heq
        obtain ⟨left, hrow, hleft, rfl⟩ := (ih (by omega) hn).1 hrest
        rw [heq]
        exact ⟨n + left, .cons hpiece hrow, by omega, by omega⟩
      · rintro ⟨left, hrow, hleft, rfl⟩
        -- the round reads the first segment of the row, as the next one begins with no unit
        rcases row_iff.1 hrow with ⟨heq, -⟩ | ⟨text, n, rest, left, hpiece, hrest, heq, rfl⟩
        · cases heq
        · have hshort := hpiece.length_rest_lt heq
          refine ⟨n, rest, ?_, by omega, (ih (by omega) (by omega)).2 ⟨left, hrest, ?_, ?_⟩⟩
          · rw [heq]
            exact hpiece.leads hrest.head_not_unit
          · omega
          · omega

/-! ### Whole texts -/

/-- A sign is taken off a text, whatever follows that is none. -/
theorem sign_text (s : Sign) (hcs : ∀ c ∈ cs.head?, c ≠ '+' ∧ c ≠ '-') :
    sign (s.text ++ cs) = (s == .minus, cs) := by
  cases s with
  | plus | minus => rfl
  | none =>
    cases cs with
    | nil => rfl
    | cons c cs =>
      obtain ⟨hplus, hminus⟩ := hcs c rfl
      change sign (c :: cs) = _
      unfold sign
      split
      · next heq => exact absurd (List.cons.inj heq).1 hminus
      · next heq => exact absurd (List.cons.inj heq).1 hplus
      · rfl

/-- Every text is a sign and the rest. -/
theorem exists_sign (cs : List Point) :
    ∃ (s : Sign) (rest : List Point), cs = s.text ++ rest ∧ sign cs = (s == .minus, rest) := by
  unfold sign
  split
  · exact ⟨.minus, _, rfl, rfl⟩
  · exact ⟨.plus, _, rfl, rfl⟩
  · exact ⟨.none, _, rfl, rfl⟩

/-- A row of segments does not begin with a sign. -/
theorem Row.head_not_sign (h : Row decimalDigit? cs total) :
    ∀ c ∈ cs.head?, c ≠ '+' ∧ c ≠ '-' := by
  intro c hc
  rcases h.head c hc with hd | rfl
  · constructor <;> rintro rfl <;> revert hd <;> decide
  · decide

/-- A digit on its own is no row of segments. -/
theorem Row.ne_digit (h : Row decimalDigit? cs total) : cs ≠ [Point.char '0'] := by
  rintro rfl
  rcases row_iff.1 h with ⟨heq, -⟩ | ⟨text, n, rest, left, hpiece, -, heq, -⟩
  · cases heq
  · have hlong := hpiece.two_le_length
    have hlength := congrArg List.length heq
    rw [List.length_append, List.length_singleton] at hlength
    omega

/-- What is read behind a sign. -/
theorem parse_of_sign {text : Text} {s : Sign} (h : sign text.toList = (s == .minus, cs)) :
    parse text = .ok v ↔ (cs = [Point.char '0'] ∧ v = 0) ∨
      (cs ≠ [] ∧ ∃ total, Row decimalDigit? cs total ∧ total ≤ s.most ∧ v = s.apply total) := by
  have hmost : (if (s == .minus) = true then longest + 1 else longest) = s.most := by
    cases s <;> decide
  have happly : ∀ total : Nat,
      (if (s == .minus) = true then -(total : Int) else total) = s.apply total := by
    cases s <;> exact fun total => rfl
  rw [parse, h]
  dsimp only
  rw [hmost]
  -- a zero on its own needs no unit
  by_cases hzero : cs = [Point.char '0']
  · rw [if_pos hzero, Except.ok.injEq]
    constructor
    · rintro rfl
      exact .inl ⟨hzero, rfl⟩
    · rintro (⟨-, rfl⟩ | ⟨-, total, hrow, -, -⟩)
      · rfl
      · exact absurd hzero hrow.ne_digit
  · rw [if_neg hzero]
    by_cases hnil : cs = []
    · rw [if_pos hnil]
      refine ⟨nofun, ?_⟩
      rintro (⟨h, -⟩ | ⟨h, -⟩)
      · exact absurd h hzero
      · exact absurd hnil h
    · rw [if_neg hnil, Except.bind_eq_ok_iff]
      simp only [sum_eq_ok_iff cs.length (Nat.le_refl _) (Nat.zero_le s.most), happly]
      constructor
      · rintro ⟨m, ⟨left, hrow, hleft, rfl⟩, hv⟩
        rw [Nat.zero_add] at hleft hv
        exact .inr ⟨hnil, left, hrow, hleft, (Except.ok.inj hv).symm⟩
      · rintro (⟨h, -⟩ | ⟨-, total, hrow, htotal, rfl⟩)
        · exact absurd h hzero
        · exact ⟨total, ⟨total, hrow, by omega, by omega⟩, rfl⟩

/-- **What is read is what the grammar writes.** -/
theorem parse_eq_ok_iff {text : Text} :
    parse text = .ok v ↔ Writes decimalDigit? text.toList v := by
  constructor
  · intro h
    obtain ⟨s, cs, htext, hs⟩ := exists_sign text.toList
    rw [htext]
    rcases (parse_of_sign hs).1 h with ⟨rfl, rfl⟩ | ⟨hne, total, hrow, hle, rfl⟩
    · exact .zero s
    · exact .row s hrow hne hle
  · intro h
    generalize htext : text.toList = cs at h
    cases h with
    | zero s =>
      have hzero : ∀ c ∈ [Point.char '0'].head?, c ≠ '+' ∧ c ≠ '-' := by
        rintro c ⟨⟩
        decide
      have hsign := sign_text s hzero
      exact (parse_of_sign (htext ▸ hsign)).2 (.inl ⟨rfl, rfl⟩)
    | row s segments nonempty bounded =>
      have hsign := sign_text s segments.head_not_sign
      exact (parse_of_sign (htext ▸ hsign)).2 (.inr ⟨nonempty, _, segments, bounded, rfl⟩)

/-! ### What follows -/

/-- Durations fit 64 bits. -/
theorem Writes.bounds (h : Writes digit? cs v) : -2 ^ 63 ≤ v ∧ v ≤ 2 ^ 63 - 1 := by
  cases h with
  | zero s => decide
  | @row s cs total _ _ bounded =>
    cases s <;>
      · simp only [Sign.most, Sign.apply] at bounded ⊢
        omega

/-- Segments behind a sign have the sum of their nanoseconds. -/
theorem parse_parts (s : Sign) {parts : List (List Point × Nat)} (hne : parts ≠ [])
    (hparts : ∀ p ∈ parts, Piece decimalDigit? p.1 p.2)
    (hmost : (parts.map Prod.snd).sum ≤ s.most) :
    parse (Text.ofList (s.text ++ (parts.map Prod.fst).flatten)) =
      .ok (s.apply (parts.map Prod.snd).sum) := by
  obtain ⟨p, rest, rfl⟩ := List.exists_cons_of_ne_nil hne
  have hnil : ((p :: rest).map Prod.fst).flatten ≠ [] := by
    obtain ⟨c, more, hp, -⟩ := (hparts p List.mem_cons_self).head
    rw [List.map_cons, List.flatten_cons, hp]
    exact List.cons_ne_nil _ _
  rw [parse_eq_ok_iff, Text.toList_ofList]
  exact .row s (row_flatten _ hparts) hnil hmost

/-- What is read behind a plus is negated behind a minus. -/
theorem parse_minus {text : Text} (h : parse ("+" ++ text) = .ok v) :
    parse ("-" ++ text) = .ok (-v) := by
  have hplus : sign ("+" ++ text).toList = (Sign.plus == .minus, text.toList) := by
    rw [Text.toList_append]
    rfl
  have hminus : sign ("-" ++ text).toList = (Sign.minus == .minus, text.toList) := by
    rw [Text.toList_append]
    rfl
  rw [parse_of_sign hplus] at h
  rw [parse_of_sign hminus]
  rcases h with ⟨hzero, rfl⟩ | ⟨hne, total, hrow, hmost, rfl⟩
  · exact .inl ⟨hzero, rfl⟩
  · refine .inr ⟨hne, total, hrow, ?_, rfl⟩
    simp only [Sign.most] at hmost ⊢
    omega

/-- A number of nanoseconds as it is printed. -/
def inNanos (m : Nat) : List Point := (Nat.toDigits 10 m).map .char ++ [.char 'n', .char 's']

/-- A printed number of nanoseconds is a segment. -/
theorem piece_nanos {m : Nat} (hm : m ≤ 2 ^ 63) : Piece decimalDigit? (inNanos m) m := by
  have hshort : (Nat.toDigits 10 m).length ≤ 19 :=
    (Nat.length_toDigits_le_iff (by decide) (by decide)).2 (by omega)
  have hne : (Nat.toDigits 10 m).map Point.char ≠ [] :=
    mt List.map_eq_nil_iff.1 (List.length_pos_iff.1 Nat.length_toDigits_pos)
  have hpiece : Piece decimalDigit? (inNanos m) (m * 1 + 0 * 1 / 10 ^ 0) :=
    .mk (s := ⟨(Nat.toDigits 10 m).map .char, [], ['n', 's']⟩) (.plain rfl) (.inl hne)
      (by simp only [List.length_map, digitLimit]; omega) (Nat.zero_le _) rfl
      (numeral_toDigits readsDigits_decimalDigit? m) .nil
  simpa using hpiece

/-- A printed number of nanoseconds is read behind every sign that allows for it. -/
theorem parse_nanos_of_sign (s : Sign) {m : Nat} (hm : m ≤ s.most) :
    parse (Text.ofList (s.text ++ inNanos m)) = .ok (s.apply m) := by
  have hmost : m ≤ 2 ^ 63 := by cases s <;> simp only [Sign.most] at hm <;> omega
  have hpart : ∀ p ∈ [(inNanos m, m)], Piece decimalDigit? p.1 p.2 :=
    List.forall_mem_singleton.2 (piece_nanos hmost)
  simpa using parse_parts s (List.cons_ne_nil _ _) hpart (by simpa using hm)

/-- A printed number of nanoseconds is read as that number. -/
theorem parse_nanos {m : Int} (hlow : -2 ^ 63 ≤ m) (hhigh : m ≤ 2 ^ 63 - 1) :
    parse (toString m ++ "ns") = .ok m := by
  rw [Int.toString_eq_repr, Int.repr_eq_if]
  by_cases hm : 0 ≤ m
  · have htext : .plain m.toNat.repr ++ "ns" = Text.ofList (Sign.none.text ++ inNanos m.toNat) := by
      rw [Nat.repr_eq_ofList_toDigits, ← Text.toList_inj]
      simp [Sign.text, inNanos]
    rw [if_pos hm, htext, parse_nanos_of_sign .none (by simp only [Sign.most]; omega)]
    exact congrArg Except.ok (Int.toNat_of_nonneg hm)
  · have htext : .plain ("-" ++ (-m).toNat.repr) ++ "ns" =
        Text.ofList (Sign.minus.text ++ inNanos (-m).toNat) := by
      rw [Nat.repr_eq_ofList_toDigits, ← Text.toList_inj]
      simp [Sign.text, inNanos]
    rw [if_neg hm, htext, parse_nanos_of_sign .minus (by simp only [Sign.most]; omega)]
    refine congrArg Except.ok ?_
    simp only [Sign.apply]
    omega

/-- **What it means to read durations** from texts. -/
structure ReadsDurations (read : Text → Except Fault Int) : Prop where
  /-- A text is read if the grammar writes it, as what it writes. -/
  accepts : ∀ text v, read text = .ok v ↔ Writes decimalDigit? text.toList v
  /-- Every other text is refused. -/
  refuses : ∀ text, (∃ f, read text = .error f) ↔ ∀ v, ¬ Writes decimalDigit? text.toList v
  /-- What is read fits 64 bits. -/
  fits : ∀ text v, read text = .ok v → -2 ^ 63 ≤ v ∧ v ≤ 2 ^ 63 - 1
  /-- Segments behind one another have the sum of their nanoseconds, if it fits. -/
  adds : ∀ (s : Sign) (parts : List (List Point × Nat)), parts ≠ [] →
    (∀ p ∈ parts, Piece decimalDigit? p.1 p.2) → (parts.map Prod.snd).sum ≤ s.most →
    read (Text.ofList (s.text ++ (parts.map Prod.fst).flatten)) =
      .ok (s.apply (parts.map Prod.snd).sum)
  /-- A minus in the place of a plus negates. -/
  negates : ∀ text v, read ("+" ++ text) = .ok v → read ("-" ++ text) = .ok (-v)
  /-- A printed number of nanoseconds of 64 bits is read as that number. -/
  printed : ∀ m : Int, -2 ^ 63 ≤ m → m ≤ 2 ^ 63 - 1 → read (toString m ++ "ns") = .ok m

/-- **Durations are read from their texts**, and from no others. -/
theorem parse_readsDurations : ReadsDurations parse where
  accepts _ _ := parse_eq_ok_iff
  refuses text := by
    cases hparse : parse text with
    | ok v => exact ⟨nofun, fun h => absurd (parse_eq_ok_iff.1 hparse) (h v)⟩
    | error f =>
      refine ⟨fun _ v hv => ?_, fun _ => ⟨f, rfl⟩⟩
      rw [← parse_eq_ok_iff, hparse] at hv
      cases hv
  fits _ _ h := (parse_eq_ok_iff.1 h).bounds
  adds s _ hne hparts hmost := parse_parts s hne hparts hmost
  negates _ _ h := parse_minus h
  printed _ hlow hhigh := parse_nanos hlow hhigh

/-- An hour and a half in two segments, its negation, and the least number of nanoseconds. -/
theorem parse_readsDurations_sample :
    (∀ p ∈ [(Text.toList "1h", 3600000000000), (Text.toList "30m", 1800000000000)],
        Piece decimalDigit? p.1 p.2) ∧
      parse "1h30m" = .ok 5400000000000 ∧ parse "+1h30m" = .ok 5400000000000 ∧
      parse "-1h30m" = .ok (-5400000000000) ∧
      parse (toString (-2 ^ 63 : Int) ++ "ns") = .ok (-2 ^ 63) := by
  have hour : Piece decimalDigit? ['1', 'h'] 3600000000000 :=
    .mk (s := ⟨['1'], [], ['h']⟩) (.plain rfl) (.inl nofun) (by decide) (by decide) rfl
      (.cons (d := 1) rfl .nil) .nil
  have minutes : Piece decimalDigit? ['3', '0', 'm'] 1800000000000 :=
    .mk (s := ⟨['3', '0'], [], ['m']⟩) (.plain rfl) (.inl nofun) (by decide) (by decide) rfl
      (.cons (d := 3) rfl (.cons (d := 0) rfl .nil)) .nil
  have hparts : ∀ p ∈ [(Text.toList "1h", 3600000000000), (Text.toList "30m", 1800000000000)],
      Piece decimalDigit? p.1 p.2 := by
    simp only [List.forall_mem_cons]
    exact ⟨hour, minutes, nofun⟩
  have hplus : parse "+1h30m" = .ok 5400000000000 :=
    parse_readsDurations.adds .plus _ (List.cons_ne_nil _ _) hparts (by decide)
  exact ⟨hparts, parse_readsDurations.adds .none _ (List.cons_ne_nil _ _) hparts (by decide), hplus,
    parse_readsDurations.negates "1h30m" _ hplus,
    parse_readsDurations.printed (-2 ^ 63) (by decide) (by decide)⟩

end Admission.Time.Duration
