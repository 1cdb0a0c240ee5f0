import Admission.Proofs.Numeral
import Admission.Time.Timestamp

/-!
# The texts of date-times

A grammar of the texts that write date-times, beside the reader that takes their fields one after
another, and the text of a date-time with all its fields. The grammar leaves open which characters
are digits; the reader takes those of every script, and passes over one line break at the end.

* `Shape`, `DateTime`: the texts of the shape of a date-time; those whose fields exist.
* `number?_eq_some_iff`, `Fraction.read`, `Offset.read`: the readers of parts of the grammar.
* `Shape.written`, `shape_of_written`: the reader takes apart the texts of the right shape.
* `parse_eq_ok_iff`: what is read is what the grammar writes.
* `render`, `dateTime_render`: the text of a date-time with microseconds and whole minutes of
  offset.
* `parse_readsDateTimes`: **date-times are read from their texts, and from no others.**
-/

namespace Admission.Time.Timestamp

open Admission.Text

/-! ### The grammar -/

/-- A number of exactly `width` digits. -/
structure Field (digit? : Point → Option Nat) (width : Nat) (cs : List Point) (n : Nat) : Prop where
  length : cs.length = width
  number : Numeral digit? cs n

/-- The text of a fraction of a second, which may be left out, and its microseconds, rounded
down. -/
inductive Fraction (digit? : Point → Option Nat) : List Point → Nat → Prop where
  | none : Fraction digit? [] 0
  | digits {cs : List Point} {n : Nat} (nonempty : cs ≠ []) (number : Numeral digit? cs n) :
      Fraction digit? (.char '.' :: cs) (n * 10 ^ 6 / 10 ^ cs.length)

/-- The text of an offset from UTC and its seconds. -/
inductive Offset (digit? : Point → Option Nat) : List Point → Int → Prop where
  | utc {c : Point} (mark : c = 'Z' ∨ c = 'z') : Offset digit? [c] 0
  | ahead {hh mm : List Point} {hours minutes : Nat} (hour : Field digit? 2 hh hours)
      (minute : Field digit? 2 mm minutes) (hourBound : hours ≤ 23) (minuteBound : minutes ≤ 59) :
      Offset digit? (.char '+' :: (hh ++ .char ':' :: mm)) ((hours * 60 + minutes) * 60 : Nat)
  | behind {hh mm : List Point} {hours minutes : Nat} (hour : Field digit? 2 hh hours)
      (minute : Field digit? 2 mm minutes) (hourBound : hours ≤ 23) (minuteBound : minutes ≤ 59) :
      Offset digit? (.char '-' :: (hh ++ .char ':' :: mm)) (-((hours * 60 + minutes) * 60 : Nat))

/-- **The texts of the shape `YYYY-MM-DDThh:mm:ss[.f]offset` and their fields**, which need not
exist. -/
inductive Shape (digit? : Point → Option Nat) : List Point → Timestamp → Prop where
  | mk {year month day hour minute second fraction offset : List Point} {separator : Point}
      {t : Timestamp} (yearField : Field digit? 4 year t.year)
      (monthField : Field digit? 2 month t.month) (dayField : Field digit? 2 day t.day)
      (separatorMark : separator = 'T' ∨ separator = 't')
      (hourField : Field digit? 2 hour t.hour) (minuteField : Field digit? 2 minute t.minute)
      (secondField : Field digit? 2 second t.second)
      (fractionText : Fraction digit? fraction t.microsecond)
      (offsetText : Offset digit? offset t.offset) :
      Shape digit? (year ++ .char '-' :: (month ++ .char '-' :: (day ++ separator :: (hour ++
        .char ':' :: (minute ++ .char ':' :: (second ++ (fraction ++ offset))))))) t

/-- **The text of a date-time**: its shape is right, and its fields exist. -/
structure DateTime (digit? : Point → Option Nat) (cs : List Point) (t : Timestamp) : Prop where
  shape : Shape digit? cs t
  exists_fields : t.Exists

variable {digit? : Point → Option Nat} {cs rest : List Point} {n width : Nat} {t : Timestamp}

/-! ### The parts -/

theorem digits?_eq_some_iff {ds : List Nat} : digits? width cs = some (ds, rest) ↔
    ∃ front, cs = front ++ rest ∧ front.length = width ∧ digitValues? front = some ds := by
  induction width generalizing cs ds rest with
  | zero =>
    rw [digits?, Option.some.injEq, Prod.mk.injEq]
    constructor
    · rintro ⟨rfl, rfl⟩
      exact ⟨[], rfl, rfl, rfl⟩
    · rintro ⟨front, rfl, hlength, hvalues⟩
      obtain rfl := List.length_eq_zero_iff.1 hlength
      exact ⟨Option.some.inj hvalues, rfl⟩
  | succ width ih =>
    cases cs with
    | nil =>
      refine ⟨nofun, ?_⟩
      rintro ⟨front, heq, hlength, -⟩
      rw [(List.append_eq_nil_iff.1 heq.symm).1] at hlength
      cases hlength
    | cons c cs =>
      simp only [digits?, Option.bind_eq_bind, Option.bind_eq_some_iff, Prod.exists, ih,
        Option.some.injEq, Prod.mk.injEq]
      constructor
      · rintro ⟨d, hd, ds, _, ⟨front, rfl, rfl, hvalues⟩, rfl, rfl⟩
        refine ⟨c :: front, rfl, rfl, ?_⟩
        rw [digitValues?, List.mapM_cons, hd]
        rw [digitValues?] at hvalues
        rw [hvalues]
        rfl
      · rintro ⟨front, heq, hlength, hvalues⟩
        obtain ⟨c', front, rfl⟩ := List.exists_cons_of_length_eq_add_one hlength
        obtain ⟨rfl, rfl⟩ := List.cons.inj heq
        simp only [digitValues?, List.mapM_cons, Option.bind_eq_bind, Option.bind_eq_some_iff,
          Option.pure_def, Option.some.injEq] at hvalues
        obtain ⟨d, hd, ds, hds, rfl⟩ := hvalues
        exact ⟨d, hd, ds, rest, ⟨front, rfl, Nat.succ.inj hlength, hds⟩, rfl, rfl⟩

/-- **A number is read from a field at the front.** -/
theorem number?_eq_some_iff : number? width cs = some (n, rest) ↔
    ∃ front, cs = front ++ rest ∧ Field decimalDigit? width front n := by
  rw [number?, Option.map_eq_some_iff]
  constructor
  · rintro ⟨⟨ds, rest'⟩, h, heq⟩
    obtain ⟨rfl, rfl⟩ := Prod.mk.inj heq
    obtain ⟨front, rfl, hlength, hvalues⟩ := digits?_eq_some_iff.1 h
    exact ⟨front, rfl, hlength, numeral_iff.2 ⟨ds, hvalues, rfl⟩⟩
  · rintro ⟨front, rfl, hlength, hnumber⟩
    obtain ⟨ds, hvalues, rfl⟩ := numeral_iff.1 hnumber
    exact ⟨(ds, rest), digits?_eq_some_iff.2 ⟨front, rfl, hlength, hvalues⟩, rfl⟩

theorem oneOf?_eq_some_iff {set : List Point} :
    oneOf? set cs = some rest ↔ ∃ c ∈ set, cs = c :: rest := by
  cases cs with
  | nil => simp [oneOf?]
  | cons c cs =>
    rw [oneOf?]
    by_cases hc : c ∈ set
    · rw [if_pos (List.contains_iff_mem.2 hc), Option.some.injEq]
      constructor
      · rintro rfl
        exact ⟨c, hc, rfl⟩
      · rintro ⟨_, -, heq⟩
        exact (List.cons.inj heq).2
    · rw [if_neg (mt List.contains_iff_mem.1 hc)]
      refine ⟨nofun, ?_⟩
      rintro ⟨c', hc', heq⟩
      rw [(List.cons.inj heq).1] at hc
      exact absurd hc' hc

/-- A field is read where it stands. -/
theorem Field.read (h : Field decimalDigit? width cs n) (rest : List Point) :
    number? width (cs ++ rest) = some (n, rest) :=
  number?_eq_some_iff.2 ⟨cs, rfl, h⟩

theorem oneOf?_cons {set : List Point} {c : Point} (hc : c ∈ set) (rest : List Point) :
    oneOf? set (c :: rest) = some rest :=
  oneOf?_eq_some_iff.2 ⟨c, hc, rfl⟩

/-- Six digits, padded or cut, are the microseconds of a fraction. -/
theorem micros_eq {ds : List Nat} (hds : ∀ d ∈ ds, d < 10) :
    micros ds = natOfDigits ds * 10 ^ 6 / 10 ^ ds.length := by
  unfold micros
  by_cases hlong : 6 ≤ ds.length
  · -- the digits that are cut off are less than one in the last place
    have hrest : natOfDigits (ds.drop 6) < 10 ^ (ds.drop 6).length :=
      natOfDigits_lt fun d hd => hds d (List.mem_of_mem_drop hd)
    have hsplit : natOfDigits ds =
        natOfDigits (ds.take 6) * 10 ^ (ds.drop 6).length + natOfDigits (ds.drop 6) := by
      rw [← natOfDigits_append, List.take_append_drop]
    have hpow : 10 ^ ds.length = 10 ^ (ds.drop 6).length * 10 ^ 6 := by
      rw [← Nat.pow_add, List.length_drop, Nat.sub_add_cancel hlong]
    rw [List.take_append_of_le_length hlong, hpow, Nat.mul_div_mul_right _ _ (by decide), hsplit,
      Nat.mul_comm, Nat.mul_add_div (Nat.pow_pos (by decide)), Nat.div_eq_of_lt hrest, Nat.add_zero]
  · -- the zeros that are put behind make up for the digits that are missing
    have hpow : 10 ^ 6 = 10 ^ (6 - ds.length) * 10 ^ ds.length := by
      rw [← Nat.pow_add, Nat.sub_add_cancel (by omega)]
    have hpad : (ds ++ List.replicate 6 0).take 6 = ds ++ List.replicate (6 - ds.length) 0 := by
      rw [List.take_append, List.take_of_length_le (by omega), List.take_replicate]
      congr 2
      omega
    rw [hpad, natOfDigits_append, natOfDigits_zeros, List.length_replicate, hpow, ← Nat.mul_assoc,
      Nat.mul_div_cancel _ (Nat.pow_pos (by decide)), Nat.add_zero]

/-- A fraction is read where it stands, whatever follows that does not go on with it. -/
theorem Fraction.read (h : Fraction decimalDigit? cs n)
    (hrest : ∀ c ∈ rest.head?, isDecimalDigit c = false ∧ c ≠ '.') :
    fraction? (cs ++ rest) = some (n, rest) := by
  cases h with
  | none =>
    rw [List.nil_append]
    unfold fraction?
    split
    · exact absurd rfl (hrest '.' rfl).2
    · rfl
  | @digits cs n nonempty number =>
    obtain ⟨ds, hds, rfl⟩ := numeral_iff.1 number
    obtain ⟨hrun, hbehind⟩ :=
      takeWhile_run (p := isDecimalDigit) number.isSome fun c hc => (hrest c hc).1
    have hempty : cs.isEmpty = false := by simpa using nonempty
    rw [List.cons_append, fraction?, hrun, hbehind, hds, hempty, Option.map_some,
      micros_eq (lt_ten_of_digitValues? hds), length_of_digitValues? hds]
    rfl

/-- What is read as a fraction is one. -/
theorem fraction_of_read (h : fraction? cs = some (n, rest)) :
    ∃ front, cs = front ++ rest ∧ Fraction decimalDigit? front n := by
  unfold fraction? at h
  split at h
  · next cs =>
    dsimp only at h
    split at h
    · cases h
    · next hempty =>
      obtain ⟨ds, hds, heq⟩ := Option.map_eq_some_iff.1 h
      obtain ⟨rfl, rfl⟩ := Prod.mk.inj heq
      have hnonempty : cs.takeWhile isDecimalDigit ≠ [] := by simpa using hempty
      refine ⟨'.' :: cs.takeWhile isDecimalDigit, ?_, ?_⟩
      · rw [List.cons_append, List.takeWhile_append_dropWhile]
      · rw [micros_eq (lt_ten_of_digitValues? hds), length_of_digitValues? hds]
        exact .digits hnonempty (numeral_iff.2 ⟨ds, hds, rfl⟩)
  · obtain ⟨rfl, rfl⟩ := Prod.mk.inj (Option.some.inj h)
    exact ⟨[], rfl, .none⟩

/-- The seconds of an offset as it is written. -/
def WrittenOffset.seconds (o : WrittenOffset) : Int :=
  let seconds : Int := (o.hours * 60 + o.minutes) * 60
  if o.negative then -seconds else seconds

/-- An offset that exists has hours and minutes within a day. -/
def WrittenOffset.Exists (o : WrittenOffset) : Prop := ¬ (o.hours > 23 ∨ o.minutes > 59)

/-- Hours and minutes behind a sign are read as an offset, whether it exists or not. -/
theorem offset?_signed {sign : Point} {hh mm : List Point} {hours minutes : Nat}
    (hsign : sign = '+' ∨ sign = '-') (hour : Field decimalDigit? 2 hh hours)
    (minute : Field decimalDigit? 2 mm minutes) (rest : List Point) :
    ∃ written, offset? (sign :: (hh ++ .char ':' :: mm) ++ rest) =
      some (⟨sign = '-', hours, minutes, written⟩, rest) := by
  have hmark : ¬ (sign = 'Z' ∨ sign = 'z') := by rcases hsign with rfl | rfl <;> decide
  refine ⟨sign :: (hh ++ .char ':' :: mm ++ rest).take 5, ?_⟩
  rw [List.cons_append, offset?, if_neg hmark, if_pos hsign]
  simp only [List.append_assoc, List.cons_append, hour.read, minute.read,
    oneOf?_cons (List.mem_singleton_self (Point.char ':')), Option.bind_eq_bind, Option.bind_some]

/-- An offset is read where it stands. -/
theorem Offset.read {s : Int} (h : Offset decimalDigit? cs s) (rest : List Point) :
    ∃ o, offset? (cs ++ rest) = some (o, rest) ∧ o.Exists ∧ o.seconds = s := by
  cases h with
  | @utc c mark =>
    refine ⟨⟨false, 0, 0, [c]⟩, ?_, by simp [WrittenOffset.Exists], rfl⟩
    rw [List.singleton_append, offset?, if_pos mark]
  | ahead hour minute hourBound minuteBound =>
    obtain ⟨written, hread⟩ := offset?_signed (.inl rfl) hour minute rest
    refine ⟨_, hread, ?_, ?_⟩
    · simp only [WrittenOffset.Exists]
      omega
    · simp [WrittenOffset.seconds]
  | behind hour minute hourBound minuteBound =>
    obtain ⟨written, hread⟩ := offset?_signed (.inr rfl) hour minute rest
    refine ⟨_, hread, ?_, ?_⟩
    · simp only [WrittenOffset.Exists]
      omega
    · simp [WrittenOffset.seconds]

/-- What is read as an offset is one, if it exists. -/
theorem offset_of_read {o : WrittenOffset} (h : offset? cs = some (o, rest)) (ho : o.Exists) :
    ∃ front, cs = front ++ rest ∧ Offset decimalDigit? front o.seconds := by
  cases cs with
  | nil => cases h
  | cons c cs =>
    rw [offset?] at h
    by_cases hmark : c = 'Z' ∨ c = 'z'
    · rw [if_pos hmark] at h
      obtain ⟨rfl, rfl⟩ := Prod.mk.inj (Option.some.inj h)
      exact ⟨[c], rfl, .utc hmark⟩
    · rw [if_neg hmark] at h
      by_cases hsign : c = '+' ∨ c = '-'
      · rw [if_pos hsign] at h
        obtain ⟨⟨hours, cs₁⟩, hhours, h⟩ := Option.bind_eq_some_iff.1 h
        obtain ⟨cs₂, hcolon, h⟩ := Option.bind_eq_some_iff.1 h
        obtain ⟨⟨minutes, cs₃⟩, hminutes, h⟩ := Option.bind_eq_some_iff.1 h
        obtain ⟨rfl, rfl⟩ := Prod.mk.inj (Option.some.inj h)
        obtain ⟨hh, rfl, hour⟩ := number?_eq_some_iff.1 hhours
        obtain ⟨colon, hmem, rfl⟩ := oneOf?_eq_some_iff.1 hcolon
        obtain rfl := List.mem_singleton.1 hmem
        obtain ⟨mm, rfl, minute⟩ := number?_eq_some_iff.1 hminutes
        -- the offset exists, so its hours and minutes are in bounds
        simp only [WrittenOffset.Exists] at ho
        rcases hsign with rfl | rfl
        · refine ⟨'+' :: (hh ++ .char ':' :: mm), by simp, ?_⟩
          simpa [WrittenOffset.seconds] using Offset.ahead hour minute (by omega) (by omega)
        · refine ⟨'-' :: (hh ++ .char ':' :: mm), by simp, ?_⟩
          simpa [WrittenOffset.seconds] using Offset.behind hour minute (by omega) (by omega)
      · rw [if_neg hsign] at h
        cases h

/-! ### Whole texts -/

/-- An offset begins with a character that does not go on with a fraction. -/
theorem Offset.head {s : Int} (h : Offset decimalDigit? cs s) :
    ∀ c ∈ (cs ++ rest).head?, isDecimalDigit c = false ∧ c ≠ '.' := by
  cases h with
  | utc mark =>
    rintro c ⟨⟩
    rcases mark with rfl | rfl <;> decide
  | ahead | behind =>
    rintro c ⟨⟩
    decide

/-- A text of the right shape is taken apart, before a line break too. -/
theorem Shape.written (h : Shape decimalDigit? cs t) (hrest : rest = [] ∨ rest = [.char '\n']) :
    ∃ w, written? (cs ++ rest) = some w ∧ w.fields = t ∧ w.writtenOffset.Exists := by
  obtain @⟨year, month, day, hour, minute, second, fraction, offset, separator, t, yearField,
    monthField, dayField, separatorMark, hourField, minuteField, secondField, fractionText,
    offsetText⟩ := h
  obtain ⟨o, hoffset, hexists, hseconds⟩ := offsetText.read rest
  have hseparator : separator ∈ [Point.char 'T', Point.char 't'] := by simpa using separatorMark
  have hnext : ∀ c ∈ (offset ++ rest).head?, isDecimalDigit c = false ∧ c ≠ '.' := offsetText.head
  have hfraction := fractionText.read hnext
  refine ⟨⟨⟨⟨t.year, t.month, t.day⟩, t.hour, t.minute, t.second, t.microsecond, o.seconds⟩, o⟩,
    ?_, ?_, hexists⟩
  · have hdash := List.mem_singleton_self (Point.char '-')
    have hcolon := List.mem_singleton_self (Point.char ':')
    simp only [List.append_assoc, List.cons_append]
    unfold written?
    -- part by part, each in front of all that follows it
    refine Option.bind_eq_some_iff.2 ⟨_, yearField.read _, ?_⟩
    refine Option.bind_eq_some_iff.2 ⟨_, oneOf?_cons hdash _, ?_⟩
    refine Option.bind_eq_some_iff.2 ⟨_, monthField.read _, ?_⟩
    refine Option.bind_eq_some_iff.2 ⟨_, oneOf?_cons hdash _, ?_⟩
    refine Option.bind_eq_some_iff.2 ⟨_, dayField.read _, ?_⟩
    refine Option.bind_eq_some_iff.2 ⟨_, oneOf?_cons hseparator _, ?_⟩
    refine Option.bind_eq_some_iff.2 ⟨_, hourField.read _, ?_⟩
    refine Option.bind_eq_some_iff.2 ⟨_, oneOf?_cons hcolon _, ?_⟩
    refine Option.bind_eq_some_iff.2 ⟨_, minuteField.read _, ?_⟩
    refine Option.bind_eq_some_iff.2 ⟨_, oneOf?_cons hcolon _, ?_⟩
    refine Option.bind_eq_some_iff.2 ⟨_, secondField.read _, ?_⟩
    refine Option.bind_eq_some_iff.2 ⟨_, hfraction, ?_⟩
    refine Option.bind_eq_some_iff.2 ⟨_, hoffset, ?_⟩
    exact if_pos hrest
  · rw [hseconds]

/-- What is taken apart has the right shape if its offset exists, before a line break too. -/
theorem shape_of_written {w : Written} (h : written? cs = some w) (hw : w.writtenOffset.Exists) :
    ∃ front, (cs = front ∨ cs = front ++ [.char '\n']) ∧ Shape decimalDigit? front w.fields := by
  unfold written? at h
  obtain ⟨⟨year, cs₁⟩, hyear, h⟩ := Option.bind_eq_some_iff.1 h
  obtain ⟨cs₂, hfirst, h⟩ := Option.bind_eq_some_iff.1 h
  obtain ⟨⟨month, cs₃⟩, hmonth, h⟩ := Option.bind_eq_some_iff.1 h
  obtain ⟨cs₄, hsecond, h⟩ := Option.bind_eq_some_iff.1 h
  obtain ⟨⟨day, cs₅⟩, hday, h⟩ := Option.bind_eq_some_iff.1 h
  obtain ⟨cs₆, hseparator, h⟩ := Option.bind_eq_some_iff.1 h
  obtain ⟨⟨hour, cs₇⟩, hhour, h⟩ := Option.bind_eq_some_iff.1 h
  obtain ⟨cs₈, hthird, h⟩ := Option.bind_eq_some_iff.1 h
  obtain ⟨⟨minute, cs₉⟩, hminute, h⟩ := Option.bind_eq_some_iff.1 h
  obtain ⟨cs₁₀, hfourth, h⟩ := Option.bind_eq_some_iff.1 h
  obtain ⟨⟨second, cs₁₁⟩, hseconds, h⟩ := Option.bind_eq_some_iff.1 h
  obtain ⟨⟨microsecond, cs₁₂⟩, hfraction, h⟩ := Option.bind_eq_some_iff.1 h
  obtain ⟨⟨o, rest⟩, hoffset, h⟩ := Option.bind_eq_some_iff.1 h
  dsimp only at *
  by_cases hrest : rest = [] ∨ rest = [.char '\n']
  · rw [if_pos hrest, Option.some.injEq] at h
    subst h
    -- what was taken off the front, part by part, is what the shape is made of
    obtain ⟨year', rfl, yearField⟩ := number?_eq_some_iff.1 hyear
    obtain ⟨dash, hmem, rfl⟩ := oneOf?_eq_some_iff.1 hfirst
    obtain rfl := List.mem_singleton.1 hmem
    obtain ⟨month', rfl, monthField⟩ := number?_eq_some_iff.1 hmonth
    obtain ⟨dash, hmem, rfl⟩ := oneOf?_eq_some_iff.1 hsecond
    obtain rfl := List.mem_singleton.1 hmem
    obtain ⟨day', rfl, dayField⟩ := number?_eq_some_iff.1 hday
    obtain ⟨separator, hmark, rfl⟩ := oneOf?_eq_some_iff.1 hseparator
    have hmark : separator = 'T' ∨ separator = 't' := by simpa using hmark
    obtain ⟨hour', rfl, hourField⟩ := number?_eq_some_iff.1 hhour
    obtain ⟨colon, hmem, rfl⟩ := oneOf?_eq_some_iff.1 hthird
    obtain rfl := List.mem_singleton.1 hmem
    obtain ⟨minute', rfl, minuteField⟩ := number?_eq_some_iff.1 hminute
    obtain ⟨colon, hmem, rfl⟩ := oneOf?_eq_some_iff.1 hfourth
    obtain rfl := List.mem_singleton.1 hmem
    obtain ⟨second', rfl, secondField⟩ := number?_eq_some_iff.1 hseconds
    obtain ⟨fraction, rfl, fractionText⟩ := fraction_of_read hfraction
    obtain ⟨offset, rfl, offsetText⟩ := offset_of_read hoffset hw
    refine ⟨_, ?_, .mk yearField monthField dayField hmark hourField minuteField secondField
      fractionText offsetText⟩
    rcases hrest with rfl | rfl
    · exact .inl (by simp)
    · exact .inr (by simp)
  · rw [if_neg hrest] at h
    cases h

/-- The texts that write a date-time, with or without a line break at the end. -/
def Writes (digit? : Point → Option Nat) (text : Text) (t : Timestamp) : Prop :=
  ∃ cs, (text.toList = cs ∨ text.toList = cs ++ [.char '\n']) ∧ DateTime digit? cs t

/-- **What is read is what the grammar writes.** -/
theorem parse_eq_ok_iff {text : Text} : parse text = .ok t ↔ Writes decimalDigit? text t := by
  unfold parse
  constructor
  · intro h
    split at h
    · cases h
    · next w hw =>
      by_cases ho : w.writtenOffset.hours > 23 ∨ w.writtenOffset.minutes > 59
      · rw [if_pos ho] at h
        cases h
      · rw [if_neg ho] at h
        by_cases hfields : w.fields.Exists
        · rw [if_pos hfields, Except.ok.injEq] at h
          subst h
          obtain ⟨cs, htext, hshape⟩ := shape_of_written hw ho
          exact ⟨cs, htext, hshape, hfields⟩
        · rw [if_neg hfields] at h
          cases h
  · rintro ⟨cs, htext, hshape, hfields⟩
    obtain ⟨rest, hrest, heq⟩ :
        ∃ rest, (rest = [] ∨ rest = [.char '\n']) ∧ text.toList = cs ++ rest := by
      rcases htext with h | h
      · exact ⟨[], .inl rfl, by rw [h, List.append_nil]⟩
      · exact ⟨['\n'], .inr rfl, h⟩
    obtain ⟨w, hw, rfl, ho⟩ := hshape.written hrest
    rw [heq, hw]
    dsimp only
    rw [if_neg ho, if_pos hfields]

/-! ### Writing -/

/-- The text of an offset in hours and minutes. -/
def renderOffset (seconds : Int) : List Point :=
  let minutes := seconds.natAbs / 60
  (if seconds < 0 then '-' else '+') ::
    (padded 2 (minutes / 60) ++ .char ':' :: padded 2 (minutes % 60))

/-- The text of a timestamp with six digits of a second. -/
def render (t : Timestamp) : Text :=
  Text.ofList (padded 4 t.year ++ .char '-' :: (padded 2 t.month ++ .char '-' :: (padded 2 t.day ++
    .char 'T' :: (padded 2 t.hour ++ .char ':' :: (padded 2 t.minute ++ .char ':' ::
      (padded 2 t.second ++ (.char '.' :: padded 6 t.microsecond ++ renderOffset t.offset)))))))

/-- A civil date-time: its fields exist, and its offset is less than a day in whole minutes. -/
structure Civil (t : Timestamp) : Prop where
  exists_fields : t.Exists
  microsecond : t.microsecond < 10 ^ 6
  lower : -86400 < t.offset
  upper : t.offset < 86400
  minutes : 60 ∣ t.offset

theorem field_padded (hr : ReadsDigits digit?) (hn : n < 10 ^ width) :
    Field digit? width (padded width n) n :=
  ⟨length_padded width n, numeral_padded hr hn⟩

theorem fraction_padded (hr : ReadsDigits digit?) (hn : n < 10 ^ 6) :
    Fraction digit? (.char '.' :: padded 6 n) n := by
  have hne : padded 6 n ≠ [] := List.length_pos_iff.1 (by rw [length_padded]; decide)
  have h := Fraction.digits hne (numeral_padded hr hn)
  rwa [length_padded, Nat.mul_div_cancel _ (by decide)] at h

theorem offset_render (hr : ReadsDigits digit?) {seconds : Int} (hlow : -86400 < seconds)
    (hhigh : seconds < 86400) (hminutes : 60 ∣ seconds) :
    Offset digit? (renderOffset seconds) seconds := by
  obtain ⟨k, rfl⟩ := hminutes
  have hhour : (60 * k).natAbs / 60 / 60 ≤ 23 := by omega
  have hminute : (60 * k).natAbs / 60 % 60 ≤ 59 := by omega
  have hourField : Field digit? 2 _ _ := field_padded hr (Nat.lt_of_le_of_lt hhour (by decide))
  have minuteField : Field digit? 2 _ _ :=
    field_padded hr (Nat.lt_of_le_of_lt hminute (by decide))
  unfold renderOffset
  by_cases hneg : 60 * k < 0
  · rw [if_pos hneg]
    have h := Offset.behind hourField minuteField hhour hminute
    rwa [show -(((60 * k).natAbs / 60 / 60 * 60 + (60 * k).natAbs / 60 % 60) * 60 : Nat) =
      60 * k by omega] at h
  · rw [if_neg hneg]
    have h := Offset.ahead hourField minuteField hhour hminute
    rwa [show (((60 * k).natAbs / 60 / 60 * 60 + (60 * k).natAbs / 60 % 60) * 60 : Nat) =
      60 * k by omega] at h

/-- **The text of a civil date-time writes it.** -/
theorem dateTime_render (hr : ReadsDigits digit?) (ht : t.Civil) :
    DateTime digit? (render t).toList t := by
  have hexists := ht.exists_fields
  obtain ⟨⟨⟨⟨-, hyear⟩, ⟨-, hmonth⟩, -, hday⟩, hhour, hminute, hsecond⟩, hmicro, hlow, hhigh,
    hwhole⟩ := ht
  have hmonthDays : daysInMonth t.year t.month ≤ 31 := by
    unfold daysInMonth
    split <;> split <;> omega
  refine ⟨?_, hexists⟩
  rw [render, Text.toList_ofList]
  exact .mk (field_padded hr (by omega)) (field_padded hr (by omega)) (field_padded hr (by omega))
    (.inl rfl) (field_padded hr (by omega)) (field_padded hr (by omega))
    (field_padded hr (by omega)) (fraction_padded hr hmicro) (offset_render hr hlow hhigh hwhole)

/-- **What it means to read date-times** from texts. -/
structure ReadsDateTimes (read : Text → Except Fault Timestamp) : Prop where
  /-- A text is read if the grammar writes it, as what it writes. -/
  accepts : ∀ text t, read text = .ok t ↔ Writes decimalDigit? text t
  /-- Every other text is refused. -/
  refuses : ∀ text, (∃ f, read text = .error f) ↔ ∀ t, ¬ Writes decimalDigit? text t
  /-- A civil date-time is read from its text. -/
  rendered : ∀ t : Timestamp, t.Civil → read (render t) = .ok t

/-- **Date-times are read from their texts,** and from no others. -/
theorem parse_readsDateTimes : ReadsDateTimes parse where
  accepts _ _ := parse_eq_ok_iff
  refuses text := by
    cases hparse : parse text with
    | ok t => exact ⟨nofun, fun h => absurd (parse_eq_ok_iff.1 hparse) (h t)⟩
    | error f =>
      refine ⟨fun _ t ht => ?_, fun _ => ⟨f, rfl⟩⟩
      rw [← parse_eq_ok_iff, hparse] at ht
      cases ht
  rendered t ht :=
    parse_eq_ok_iff.2 ⟨_, .inl rfl, dateTime_render readsDigits_decimalDigit? ht⟩

/-- The last microsecond of a leap day, nearly a day behind. -/
def leapDay : Timestamp := ⟨⟨2024, 2, 29⟩, 23, 59, 59, 999999, -86340⟩

/-- It is read from its text. -/
theorem parse_readsDateTimes_leapDay :
    leapDay.Civil ∧ parse "2024-02-29T23:59:59.999999-23:59" = .ok leapDay := by
  have hcivil : leapDay.Civil := ⟨by decide, by decide, by decide, by decide, by decide⟩
  have htext : "2024-02-29T23:59:59.999999-23:59" = render leapDay := by decide
  exact ⟨hcivil, htext ▸ parse_readsDateTimes.rendered leapDay hcivil⟩

end Admission.Time.Timestamp
