import Admission.Proofs.DateTimeText
import Admission.Proofs.FormattedText

/-!
# Durations and date-times in ASCII digits

The standards of both formats know the digits 0 to 9 only, and nothing behind the offset of a
date-time. The readers also take the digits of other scripts, and a line break at the end. With
texts that have neither, they read exactly what the standards write.

* `asciiDigit?`, `Plain`: the digits 0 to 9; texts without other digits.
* `numeral_ascii_iff`, …, `writes_ascii_iff`, `dateTime_ascii_iff`: a text of the grammar in ASCII
  digits is a plain text of the grammar in all digits, one lemma for each part of the grammars.
* `Bridge.ReadsStrictly`, `Bridge.formats_readStrictly`: **plain texts are read as the standards
  have them; all others of them are refused, and stay texts.**
* `Bridge.formats_lenient`: texts outside the standards that are read.
-/

namespace Admission

open Text

/-! ### Digits -/

namespace Text

/-- The value of a digit 0 to 9. -/
def asciiDigit? (c : Point) : Option Nat := if c.isDigit then some (c.toNat - 48) else none

/-- A digit 0 to 9 has its value among the digits of all scripts. -/
theorem decimalDigit?_of_isDigit {c : Point} (h : c.isDigit) : decimalDigit? c = asciiDigit? c := by
  have hrange : 48 ≤ c.toNat ∧ c.toNat ≤ 57 := by
    cases c with
    | char c =>
      have hval : 48 ≤ c.val ∧ c.val ≤ 57 := by simpa [Char.isDigit] using h
      exact ⟨UInt32.le_iff_toNat_le.1 hval.1, UInt32.le_iff_toNat_le.1 hval.2⟩
    | half i => cases h
  have hfind : digitZeros.find? (fun z => z ≤ c.toNat ∧ c.toNat < z + 10) = some 0x30 := by
    rw [digitZeros, List.find?_cons_of_pos]
    simp only [decide_eq_true_eq]
    omega
  rw [decimalDigit?, hfind, asciiDigit?, if_pos h]
  rfl

/-- Texts without digits of other scripts. -/
def Plain (cs : List Point) : Prop := ∀ c ∈ cs, isDecimalDigit c → c.isDigit

instance (cs : List Point) : Decidable (Plain cs) :=
  List.decidableBAll (fun c => isDecimalDigit c → c.isDigit) cs

@[simp]
theorem plain_nil : Plain [] := nofun

@[simp]
theorem plain_cons {c : Point} {cs : List Point} :
    Plain (c :: cs) ↔ (isDecimalDigit c → c.isDigit) ∧ Plain cs :=
  List.forall_mem_cons

@[simp]
theorem plain_append {cs cs' : List Point} : Plain (cs ++ cs') ↔ Plain cs ∧ Plain cs' :=
  List.forall_mem_append

/-- A character that is no digit does not make a text less plain. -/
theorem plain_cons_of_not_digit {c : Point} {cs : List Point} (hc : isDecimalDigit c = false) :
    Plain (c :: cs) ↔ Plain cs := by
  rw [plain_cons, hc]
  exact and_iff_right nofun

/-- **A row of ASCII digits** is a plain row of digits. -/
theorem numeral_ascii_iff {cs : List Point} {n : Nat} :
    Numeral asciiDigit? cs n ↔ Numeral decimalDigit? cs n ∧ Plain cs := by
  constructor
  · intro h
    have hdigit : ∀ c ∈ cs, c.isDigit := fun c hc => by
      have := h.isSome c hc
      rw [asciiDigit?] at this
      by_contra hno
      rw [if_neg hno] at this
      cases this
    refine ⟨h.mono fun c hc d hd => ?_, fun c hc _ => hdigit c hc⟩
    rw [decimalDigit?_of_isDigit (hdigit c hc), hd]
  · rintro ⟨h, hplain⟩
    refine h.mono fun c hc d hd => ?_
    rw [← decimalDigit?_of_isDigit (hplain c hc (h.isSome c hc)), hd]

end Text

/-! ### Durations -/

namespace Time.Duration

variable {cs : List Point} {n : Nat}

theorem plain_unit {unit : List Point} {scale : Nat}
    (h : units.lookup (Text.ofList unit) = some scale) : Plain unit := by
  intro c hc hd
  have hu := (unit_of_lookup h).2 c hc
  rw [isUnitChar_of_isDecimalDigit hd] at hu
  cases hu

/-- The text of a segment is plain if its digits are. -/
theorem Segment.Text.plain_iff {s : Segment} (h : s.Text cs) (hunit : Plain s.unit) :
    Plain cs ↔ Plain s.whole ∧ Plain s.fraction := by
  cases h with
  | plain hf => simp [hf, hunit]
  | pointed =>
    rw [plain_append, plain_cons_of_not_digit (by decide), plain_append]
    simp [hunit]

theorem piece_ascii_iff :
    Piece asciiDigit? cs n ↔ Piece decimalDigit? cs n ∧ Plain cs := by
  constructor
  · rintro ⟨text, digits, wholeShort, fractionShort, unit, whole, fraction⟩
    rw [numeral_ascii_iff] at whole fraction
    exact ⟨.mk text digits wholeShort fractionShort unit whole.1 fraction.1,
      (text.plain_iff (plain_unit unit)).2 ⟨whole.2, fraction.2⟩⟩
  · rintro ⟨⟨text, digits, wholeShort, fractionShort, unit, whole, fraction⟩, hplain⟩
    obtain ⟨hwhole, hfraction⟩ := (text.plain_iff (plain_unit unit)).1 hplain
    exact .mk text digits wholeShort fractionShort unit (numeral_ascii_iff.2 ⟨whole, hwhole⟩)
      (numeral_ascii_iff.2 ⟨fraction, hfraction⟩)

theorem row_ascii_iff : Row asciiDigit? cs n ↔ Row decimalDigit? cs n ∧ Plain cs := by
  constructor
  · intro h
    induction h with
    | nil => exact ⟨.nil, plain_nil⟩
    | cons head _ ih =>
      obtain ⟨hpiece, hplain⟩ := piece_ascii_iff.1 head
      exact ⟨.cons hpiece ih.1, plain_append.2 ⟨hplain, ih.2⟩⟩
  · rintro ⟨h, hplain⟩
    induction h with
    | nil => exact .nil
    | cons head _ ih =>
      obtain ⟨hhead, htail⟩ := plain_append.1 hplain
      exact .cons (piece_ascii_iff.2 ⟨head, hhead⟩) (ih htail)

theorem plain_sign (s : Sign) : Plain s.text := by cases s <;> decide

/-- **The text of a duration in ASCII digits** is a plain text of a duration. -/
theorem writes_ascii_iff {v : Int} :
    Writes asciiDigit? cs v ↔ Writes decimalDigit? cs v ∧ Plain cs := by
  constructor
  · rintro (s | ⟨s, segments, nonempty, bounded⟩)
    · exact ⟨.zero s, plain_append.2 ⟨plain_sign s, by decide⟩⟩
    · obtain ⟨hrow, hplain⟩ := row_ascii_iff.1 segments
      exact ⟨.row s hrow nonempty bounded, plain_append.2 ⟨plain_sign s, hplain⟩⟩
  · rintro ⟨s | ⟨s, segments, nonempty, bounded⟩, hplain⟩
    · exact .zero s
    · have hrow := row_ascii_iff.2 ⟨segments, (plain_append.1 hplain).2⟩
      exact .row s hrow nonempty bounded

end Time.Duration

/-! ### Date-times -/

namespace Time.Timestamp

variable {cs : List Point} {n width : Nat} {t : Timestamp}

theorem field_ascii_iff :
    Field asciiDigit? width cs n ↔ Field decimalDigit? width cs n ∧ Plain cs := by
  constructor
  · rintro ⟨length, number⟩
    rw [numeral_ascii_iff] at number
    exact ⟨⟨length, number.1⟩, number.2⟩
  · rintro ⟨⟨length, number⟩, hplain⟩
    exact ⟨length, numeral_ascii_iff.2 ⟨number, hplain⟩⟩

theorem fraction_ascii_iff :
    Fraction asciiDigit? cs n ↔ Fraction decimalDigit? cs n ∧ Plain cs := by
  have hpoint : isDecimalDigit '.' = false := by decide
  constructor
  · rintro (_ | ⟨nonempty, number⟩)
    · exact ⟨.none, plain_nil⟩
    · rw [numeral_ascii_iff] at number
      exact ⟨.digits nonempty number.1, (plain_cons_of_not_digit hpoint).2 number.2⟩
  · rintro ⟨_ | ⟨nonempty, number⟩, hplain⟩
    · exact .none
    · have hdigits := (plain_cons_of_not_digit hpoint).1 hplain
      exact .digits nonempty (numeral_ascii_iff.2 ⟨number, hdigits⟩)

theorem offset_ascii_iff {s : Int} :
    Offset asciiDigit? cs s ↔ Offset decimalDigit? cs s ∧ Plain cs := by
  -- a sign, hours, a colon and minutes are plain if hours and minutes are
  have hsigned : ∀ {sign : Point} {hh mm : List Point}, isDecimalDigit sign = false →
      (Plain (sign :: (hh ++ .char ':' :: mm)) ↔ Plain hh ∧ Plain mm) := by
    intro sign hh mm hsign
    rw [plain_cons_of_not_digit hsign, plain_append, plain_cons_of_not_digit (by decide)]
  constructor
  · rintro (⟨mark⟩ | ⟨hour, minute, hourBound, minuteBound⟩ |
      ⟨hour, minute, hourBound, minuteBound⟩)
    · refine ⟨.utc mark, ?_⟩
      rcases mark with rfl | rfl <;> decide
    · rw [field_ascii_iff] at hour minute
      exact ⟨.ahead hour.1 minute.1 hourBound minuteBound,
        (hsigned (by decide)).2 ⟨hour.2, minute.2⟩⟩
    · rw [field_ascii_iff] at hour minute
      exact ⟨.behind hour.1 minute.1 hourBound minuteBound,
        (hsigned (by decide)).2 ⟨hour.2, minute.2⟩⟩
  · rintro ⟨⟨mark⟩ | ⟨hour, minute, hourBound, minuteBound⟩ |
      ⟨hour, minute, hourBound, minuteBound⟩, hplain⟩
    · exact .utc mark
    · obtain ⟨hh, hm⟩ := (hsigned (by decide)).1 hplain
      exact .ahead (field_ascii_iff.2 ⟨hour, hh⟩) (field_ascii_iff.2 ⟨minute, hm⟩) hourBound
        minuteBound
    · obtain ⟨hh, hm⟩ := (hsigned (by decide)).1 hplain
      exact .behind (field_ascii_iff.2 ⟨hour, hh⟩) (field_ascii_iff.2 ⟨minute, hm⟩) hourBound
        minuteBound

theorem shape_ascii_iff : Shape asciiDigit? cs t ↔ Shape decimalDigit? cs t ∧ Plain cs := by
  have hdash : isDecimalDigit '-' = false := by decide
  have hcolon : isDecimalDigit ':' = false := by decide
  have hseparator : ∀ {c : Point}, c = 'T' ∨ c = 't' → isDecimalDigit c = false := by
    rintro c (rfl | rfl) <;> decide
  constructor
  · rintro ⟨year, month, day, separator, hour, minute, second, fraction, offset⟩
    rw [field_ascii_iff] at year month day hour minute second
    rw [fraction_ascii_iff] at fraction
    rw [offset_ascii_iff] at offset
    refine ⟨.mk year.1 month.1 day.1 separator hour.1 minute.1 second.1 fraction.1 offset.1, ?_⟩
    simp only [plain_append, plain_cons_of_not_digit hdash, plain_cons_of_not_digit hcolon,
      plain_cons_of_not_digit (hseparator separator)]
    exact ⟨year.2, month.2, day.2, hour.2, minute.2, second.2, fraction.2, offset.2⟩
  · rintro ⟨⟨year, month, day, separator, hour, minute, second, fraction, offset⟩, hplain⟩
    simp only [plain_append, plain_cons_of_not_digit hdash, plain_cons_of_not_digit hcolon,
      plain_cons_of_not_digit (hseparator separator)] at hplain
    obtain ⟨hyear, hmonth, hday, hhour, hminute, hsecond, hfraction, hoffset⟩ := hplain
    exact .mk (field_ascii_iff.2 ⟨year, hyear⟩) (field_ascii_iff.2 ⟨month, hmonth⟩)
      (field_ascii_iff.2 ⟨day, hday⟩) separator (field_ascii_iff.2 ⟨hour, hhour⟩)
      (field_ascii_iff.2 ⟨minute, hminute⟩) (field_ascii_iff.2 ⟨second, hsecond⟩)
      (fraction_ascii_iff.2 ⟨fraction, hfraction⟩) (offset_ascii_iff.2 ⟨offset, hoffset⟩)

/-- **The text of a date-time in ASCII digits** is a plain text of a date-time. -/
theorem dateTime_ascii_iff :
    DateTime asciiDigit? cs t ↔ DateTime decimalDigit? cs t ∧ Plain cs := by
  constructor
  · rintro ⟨shape, fields⟩
    obtain ⟨hshape, hplain⟩ := shape_ascii_iff.1 shape
    exact ⟨⟨hshape, fields⟩, hplain⟩
  · rintro ⟨⟨shape, fields⟩, hplain⟩
    exact ⟨shape_ascii_iff.2 ⟨shape, hplain⟩, fields⟩

/-- A field of two digits does not end with a line break. -/
theorem Field.exists_getLast? (h : Field decimalDigit? 2 cs n) :
    ∃ c, cs.getLast? = some c ∧ c ≠ '\n' := by
  obtain ⟨a, b, rfl⟩ := List.length_eq_two.1 h.length
  refine ⟨b, rfl, ?_⟩
  rintro rfl
  have hdigit := h.number.isSome '\n' (List.mem_cons_of_mem a List.mem_cons_self)
  revert hdigit
  decide

/-- An offset does not end with a line break. -/
theorem Offset.exists_getLast? {s : Int} (h : Offset decimalDigit? cs s) :
    ∃ c, cs.getLast? = some c ∧ c ≠ '\n' := by
  cases h with
  | @utc c mark =>
    refine ⟨c, rfl, ?_⟩
    rintro rfl
    revert mark
    decide
  | ahead _ minute _ _ | behind _ minute _ _ =>
    obtain ⟨c, hlast, hne⟩ := minute.exists_getLast?
    exact ⟨c, by simp [List.getLast?_append, List.getLast?_cons, hlast], hne⟩

/-- The text of a date-time ends with its offset, so with no line break. -/
theorem DateTime.getLast?_ne (h : DateTime decimalDigit? cs t) :
    cs.getLast? ≠ some (.char '\n') := by
  obtain ⟨⟨-, -, -, -, -, -, -, -, offset⟩, -⟩ := h
  obtain ⟨c, hlast, hne⟩ := offset.exists_getLast?
  simp [List.getLast?_append, List.getLast?_cons, hlast, hne]

/-- **The texts of date-times in ASCII digits** are the plain ones that are read and do not end
with a line break. -/
theorem dateTime_iff_parse {text : Text} : DateTime asciiDigit? text.toList t ↔
    parse text = .ok t ∧ Plain text.toList ∧ text.toList.getLast? ≠ some (.char '\n') := by
  rw [parse_eq_ok_iff]
  constructor
  · intro h
    obtain ⟨hall, hplain⟩ := dateTime_ascii_iff.1 h
    exact ⟨⟨_, .inl rfl, hall⟩, hplain, hall.getLast?_ne⟩
  · rintro ⟨⟨cs, htext | htext, h⟩, hplain, hlast⟩
    · rw [htext] at hplain ⊢
      exact dateTime_ascii_iff.2 ⟨h, hplain⟩
    · rw [htext] at hlast
      simp at hlast

end Time.Timestamp

/-- **The texts of durations in ASCII digits** are the plain ones that are read. -/
theorem Time.Duration.writes_iff_parse {text : Text} {v : Int} :
    Duration.Writes asciiDigit? text.toList v ↔
      Duration.parse text = .ok v ∧ Plain text.toList := by
  rw [Duration.parse_eq_ok_iff, Duration.writes_ascii_iff]

/-! ### Formats -/

namespace Bridge

open Time

/-- **What it means to read a text as the standard of its format has it**, unless it is at risk:
`Strict` are the texts of the standard with what they write, and `Safe` are the texts with nothing
in them that only the reader takes for a part of the format. -/
structure ReadsStrictly {α ε : Type} (Strict : Text → α → Prop) (Safe : Text → Prop)
    (format : Text) (read : Text → Except ε α) (text : Text) : Prop where
  /-- The texts of the standard are the safe ones that are read. -/
  strict_iff : ∀ a, Strict text a ↔ read text = .ok a ∧ Safe text
  /-- All other safe texts are refused. -/
  refused : Safe text → (∀ a, ¬ Strict text a) → ∃ f, read text = .error f
  /-- So they stay texts where a schema has the format. -/
  kept : Safe text → (∀ a, ¬ Strict text a) → ofText (some format) text = .ofString text

/-- It is enough to know the texts of the standard, and that refused texts stay texts. -/
theorem readsStrictly_of_iff {α ε : Type} {Strict : Text → α → Prop} {Safe : Text → Prop}
    {format : Text} {read : Text → Except ε α} {text : Text}
    (hstrict : ∀ a, Strict text a ↔ read text = .ok a ∧ Safe text)
    (hkept : ∀ f, read text = .error f → ofText (some format) text = .ofString text) :
    ReadsStrictly Strict Safe format read text := by
  have hrefused : Safe text → (∀ a, ¬ Strict text a) → ∃ f, read text = .error f := by
    intro hsafe hno
    cases hread : read text with
    | ok a => exact absurd ((hstrict a).2 ⟨hread, hsafe⟩) (hno a)
    | error f => exact ⟨f, rfl⟩
  refine ⟨hstrict, hrefused, fun hsafe hno => ?_⟩
  obtain ⟨f, hf⟩ := hrefused hsafe hno
  exact hkept f hf

/-- **Date-times and durations are read as their standards have them,** from texts without digits
of other scripts, and for date-times without a line break at the end. -/
theorem formats_readStrictly (text : Text) :
    ReadsStrictly (fun text t => Timestamp.DateTime asciiDigit? text.toList t)
        (fun text => Plain text.toList ∧ text.toList.getLast? ≠ some (.char '\n'))
        "date-time" Timestamp.parse text ∧
      ReadsStrictly (fun text v => Duration.Writes asciiDigit? text.toList v)
        (fun text => Plain text.toList) "duration" Duration.parse text :=
  ⟨readsStrictly_of_iff (fun _ => Timestamp.dateTime_iff_parse)
      fun _ h => ofText_dateTime_of_error h,
    readsStrictly_of_iff (fun _ => Duration.writes_iff_parse)
      fun _ h => ofText_duration_of_error h⟩

/-- A day that does not exist and a unit that does not exist are refused, and stay texts. -/
theorem formats_readStrictly_sample :
    (Plain (Text.toList "2024-02-30T00:00:00Z") ∧
        (Text.toList "2024-02-30T00:00:00Z").getLast? ≠ some (.char '\n')) ∧
      (∀ t, ¬ Timestamp.DateTime asciiDigit? (Text.toList "2024-02-30T00:00:00Z") t) ∧
      (∃ f, Timestamp.parse "2024-02-30T00:00:00Z" = .error f) ∧
      ofText (some "date-time") "2024-02-30T00:00:00Z" = .ofString "2024-02-30T00:00:00Z" ∧
      Plain (Text.toList "1d") ∧
      (∀ v, ¬ Duration.Writes asciiDigit? (Text.toList "1d") v) ∧
      (∃ f, Duration.parse "1d" = .error f) ∧
      ofText (some "duration") "1d" = .ofString "1d" := by
  obtain ⟨hdate, -⟩ := formats_readStrictly "2024-02-30T00:00:00Z"
  obtain ⟨-, hduration⟩ := formats_readStrictly "1d"
  have hsafe : Plain (Text.toList "2024-02-30T00:00:00Z") ∧
      (Text.toList "2024-02-30T00:00:00Z").getLast? ≠ some (.char '\n') := by decide
  have hplain : Plain (Text.toList "1d") := by decide
  have hday : ∀ t, ¬ Timestamp.DateTime asciiDigit? (Text.toList "2024-02-30T00:00:00Z") t := by
    intro t ht
    have hread : Timestamp.parse "2024-02-30T00:00:00Z" = .error .field := by rfl
    rw [((hdate.strict_iff t).1 ht).1] at hread
    cases hread
  have hunit : ∀ v, ¬ Duration.Writes asciiDigit? (Text.toList "1d") v := by
    intro v hv
    have hread : Duration.parse "1d" = .error (.unknownUnit "d" "1d") := by rfl
    rw [((hduration.strict_iff v).1 hv).1] at hread
    cases hread
  exact ⟨hsafe, hday, hdate.refused hsafe hday, hdate.kept hsafe hday, hplain, hunit,
    hduration.refused hplain hunit, hduration.kept hplain hunit⟩

/-- A line break at the end of a date-time and digits of other scripts are outside the standards,
and are read. -/
theorem formats_lenient :
    (Timestamp.parse "2024-01-02T03:04:05Z\n" = .ok ⟨⟨2024, 1, 2⟩, 3, 4, 5, 0, 0⟩ ∧
        ∀ t, ¬ Timestamp.DateTime asciiDigit? (Text.toList "2024-01-02T03:04:05Z\n") t) ∧
      (Timestamp.parse "2024-01-02T03:04:0٥Z" = .ok ⟨⟨2024, 1, 2⟩, 3, 4, 5, 0, 0⟩ ∧
        ∀ t, ¬ Timestamp.DateTime asciiDigit? (Text.toList "2024-01-02T03:04:0٥Z") t) ∧
      (Duration.parse "٥s" = .ok 5000000000 ∧
        ∀ v, ¬ Duration.Writes asciiDigit? (Text.toList "٥s") v) := by
  refine ⟨⟨by rfl, fun t ht => ?_⟩, ⟨by rfl, fun t ht => ?_⟩, by rfl, fun v hv => ?_⟩
  · have hlast := (Timestamp.dateTime_iff_parse.1 ht).2.2
    exact absurd rfl hlast
  · have hplain := (Timestamp.dateTime_iff_parse.1 ht).2.1
    exact absurd hplain (by decide)
  · have hplain := (Duration.writes_iff_parse.1 hv).2
    exact absurd hplain (by decide)

end Bridge

end Admission
