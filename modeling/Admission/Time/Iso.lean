import Admission.Time.Timestamp

/-!
# Civil date-times in ISO 8601

Dates with an optional time of day and an optional offset, in the extended form with its marks
(`2024-01-02T03:04:05+02:00`) or in the basic form without them (`20240102T030405Z`); the two forms
do not mix. A date is given by month and day, by week and weekday, or by its day in the year. Beside
these stand the loose forms with slashes, colons and blanks (`2024/01/02 3:04`), whose digits may be
of any script. A time of day without a date is one of the present day.

* `Date.ofWeek?`, `Date.ofOrdinal?`: dates by week, and by day of the year.
* `Timestamp.ofIso?`: the timestamp that such a text writes.
-/

namespace Admission.Time

open Admission.Text

/-- The number of weeks of a year: a year that starts or ends with a Thursday has 53. -/
def weeksOfYear (year : Nat) : Nat :=
  let lastWeekday (y : Nat) : Nat := (y + y / 4 - y / 100 + y / 400) % 7
  if lastWeekday year = 4 ∨ lastWeekday (year - 1) = 3 then 53 else 52

/-- The date of a day of a week. Weeks start with Monday, and the first one holds the fourth of
January. Week and day zero are those before the first ones. -/
def Date.ofWeek? (year week day : Nat) : Option Date :=
  let fourth : Date := ⟨year, 1, 4⟩
  let monday : Int := (fourth.dayNumber : Int) - ((fourth.weekday + 6) % 7 : Nat)
  let number := monday + 7 * week + day - 8
  if week ≤ weeksOfYear year ∧ day ≤ 7 ∧ 0 ≤ number then some (.ofDayNumber number.toNat) else none

/-- The date of a day of a year, counted from one. -/
def Date.ofOrdinal? (year day : Nat) : Option Date :=
  if 1 ≤ day ∧ day ≤ (if isLeap year then 366 else 365) then
    some (.ofDayNumber (daysBeforeYear year + day - 1))
  else none

namespace Timestamp

/-- The number of exactly `n` ASCII digits at the front, and the rest. -/
def plainNumber? (n : Nat) (cs : List Point) : Option (Nat × List Point) :=
  if (cs.take n).all Point.isDigit then number? n cs else none

/-- Whether a date ends here: the text does, or the time begins. -/
def isDateEnd : List Point → Bool
  | [] => true
  | c :: _ => c == 'T' || c == ' '

/-- The day of a week at the front, behind a mark if the form has one, and the rest; the first one
if the date ends here. -/
def weekday? (extended : Bool) (cs : List Point) : Option (Nat × List Point) :=
  if isDateEnd cs then some (1, cs)
  else do
    let cs ← if extended then oneOf? ['-'] cs else some cs
    plainNumber? 1 cs

/-- The rest of a date by its week. -/
def weekDate? (extended : Bool) (year : Nat) (cs : List Point) : Option (Date × List Point) := do
  let (week, cs) ← plainNumber? 2 cs
  let (day, cs) ← weekday? extended cs
  some (← Date.ofWeek? year week day, cs)

/-- The rest of a date with marks behind its year and the first mark. -/
def extendedDate? (year : Nat) (cs : List Point) : Option (Date × List Point) := do
  let (month, cs) ← plainNumber? 2 cs
  if isDateEnd cs then some (⟨year, month, 1⟩, cs)
  else
    match cs with
    | '-' :: cs => do
      let (day, cs) ← plainNumber? 2 cs
      some (⟨year, month, day⟩, cs)
    | cs => do
      let (digit, cs) ← plainNumber? 1 cs
      some (← Date.ofOrdinal? year (10 * month + digit), cs)

/-- The rest of a date without marks behind its year. -/
def basicDate? (year : Nat) (cs : List Point) : Option (Date × List Point) := do
  let (month, cs) ← plainNumber? 2 cs
  let (digit, cs) ← plainNumber? 1 cs
  if isDateEnd cs then some (← Date.ofOrdinal? year (10 * month + digit), cs)
  else do
    let (last, cs) ← plainNumber? 1 cs
    some (⟨year, month, 10 * digit + last⟩, cs)

/-- The date at the front, with "is in the extended form", and the rest. -/
def isoDate? (cs : List Point) : Option (Bool × Date × List Point) := do
  let (year, cs) ← plainNumber? 4 cs
  let (extended, cs) := match cs with
    | '-' :: cs => (true, cs)
    | cs => (false, cs)
  let (date, cs) ← match cs with
    | 'W' :: cs => weekDate? extended year cs
    | cs => if extended then extendedDate? year cs else basicDate? year cs
  some (extended, date, cs)

/-- The time of a day. -/
structure Clock where
  hour : Nat
  minute : Nat := 0
  second : Nat := 0
  microsecond : Nat := 0

/-- A fraction of a second at the front, in microseconds, and the rest. -/
def isoFraction? : List Point → Option (Nat × List Point)
  | ',' :: cs => fraction? ('.' :: cs)
  | cs => fraction? cs

/-- Two digits that follow in a time, behind a colon in the extended form, and the rest; `none` in
the pair if the time ends here. -/
def nextField? (extended : Bool) (cs : List Point) : Option (Option Nat × List Point) :=
  match extended, cs with
  | true, ':' :: cs => (plainNumber? 2 cs).map fun (n, cs) => (some n, cs)
  | false, c :: cs =>
    if c.isDigit then (plainNumber? 2 (c :: cs)).map fun (n, cs) => (some n, cs)
    else some (none, c :: cs)
  | _, cs => some (none, cs)

/-- The time of day at the front, in the form of its date, and the rest. -/
def isoClock? (extended : Bool) (cs : List Point) : Option (Clock × List Point) := do
  let (hour, cs) ← plainNumber? 2 cs
  match ← nextField? extended cs with
  | (none, cs) => some ({ hour }, cs)
  | (some minute, cs) =>
    match ← nextField? extended cs with
    | (none, cs) => some ({ hour, minute }, cs)
    | (some second, cs) =>
      let (microsecond, cs) ← isoFraction? cs
      some ({ hour, minute, second, microsecond }, cs)

/-- The offset at the front in seconds, and the rest; none is the offset zero. The minutes may be
sixty and more, but the offset is shorter than a day. -/
def isoOffset? : List Point → Option (Int × List Point)
  | [] => some (0, [])
  | 'Z' :: cs => some (0, cs)
  | c :: cs =>
    if c = '+' ∨ c = '-' then do
      let (hours, cs) ← plainNumber? 2 cs
      let (minutes, cs) ← match cs with
        | [] => some (0, [])
        | ':' :: cs => plainNumber? 2 cs
        | cs => plainNumber? 2 cs
      let seconds : Int := (hours * 60 + minutes) * 60
      if seconds < 86400 then some (if c = '-' then -seconds else seconds, cs) else none
    else none

/-- A timestamp whose fields exist. -/
def existing? (date : Date) (clock : Clock) (offset : Int) : Option Timestamp :=
  let t : Timestamp := { date with
    hour := clock.hour
    minute := clock.minute
    second := clock.second
    microsecond := clock.microsecond
    offset := offset }
  if t.Exists then some t else none

/-- The timestamp that a date or date-time in the extended or basic form writes. -/
def ofStrict? (cs : List Point) : Option Timestamp := do
  let (extended, date, cs) ← isoDate? cs
  match cs with
  | [] => existing? date ⟨0, 0, 0, 0⟩ 0
  | mark :: cs =>
    if mark = 'T' ∨ mark = ' ' then do
      let (clock, cs) ← isoClock? extended cs
      let (offset, cs) ← isoOffset? cs
      if cs = [] then existing? date clock offset else none
    else none

/-- The rest behind a slash or colon, which may be missing. -/
def afterMark : List Point → List Point
  | c :: cs => if c = '/' ∨ c = ':' then cs else c :: cs
  | [] => []

/-- The month and day at the front, and the rest. -/
def looseMonthDay? (cs : List Point) : Option (Nat × Nat × List Point) := do
  let (month, cs) ← number? 2 (afterMark cs)
  let (day, cs) ← number? 2 (afterMark cs)
  some (month, day, cs)

/-- A number of one or two digits at the front, and the rest. -/
def shortNumber? (cs : List Point) : Option (Nat × List Point) := (number? 2 cs).or (number? 1 cs)

/-- Whether a text ends here, with or without a line break. -/
def isTextEnd (cs : List Point) : Bool := cs = [] || cs = [.char '\n']

/-- The seconds behind a colon, zero if there are none, and the rest. -/
def looseSecond? : List Point → Option (Nat × List Point)
  | ':' :: cs => shortNumber? cs
  | cs => some (0, cs)

/-- A fraction of up to nine digits behind a mark, in microseconds, and the rest. -/
def looseFraction? : List Point → Option (Nat × List Point)
  | [] => some (0, [])
  | c :: cs =>
    if c = '.' ∨ c = ',' ∨ c = '|' then do
      let ds ← digitValues? ((cs.take 9).takeWhile isDecimalDigit)
      if ds = [] then none else some (micros ds, cs.drop ds.length)
    else some (0, c :: cs)

/-- The time of day in a loose form, which ends the text. -/
def looseClock? (cs : List Point) : Option Clock := do
  let cs := match cs with
    | ' ' :: cs => cs
    | cs => cs
  let (hour, cs) ← shortNumber? cs
  let (minute, cs) ← shortNumber? (← oneOf? [':'] cs)
  let (second, cs) ← looseSecond? cs
  let (microsecond, cs) ← looseFraction? cs
  if isTextEnd cs then some { hour, minute, second, microsecond } else none

/-- The time behind a loose date: midnight if the text ends. -/
def looseEnd? (cs : List Point) : Option Clock :=
  if isTextEnd cs then some ⟨0, 0, 0, 0⟩ else looseClock? cs

/-- The timestamp that a loose date or date-time writes: a year, with or without month and day. -/
def ofLoose? (cs : List Point) : Option Timestamp := do
  let (year, cs) ← number? 4 cs
  let whole := do
    let (month, day, cs) ← looseMonthDay? cs
    let clock ← looseEnd? cs
    some ((⟨year, month, day⟩ : Date), clock)
  let (date, clock) ← whole.or ((looseEnd? cs).map fun clock => (⟨year, 1, 1⟩, clock))
  existing? date clock 0

/-- The moment that stands for the present. Evaluation is a function of its inputs alone, so this
is one fixed moment. -/
def present : Timestamp :=
  { year := 2026, month := 1, day := 1, hour := 0, minute := 0, second := 0, microsecond := 0,
    offset := 0 }

/-- The time of day that a text without a date writes, in the extended form or behind a `T` in the
basic form. Its offset does not count. -/
def strictClock? (cs : List Point) : Option Clock := do
  let (clock, cs) ← match cs with
    | 'T' :: cs => isoClock? false cs
    | _ :: _ :: ':' :: _ => isoClock? true cs
    | _ => none
  let (_, cs) ← isoOffset? cs
  if cs = [] then some clock else none

/-- The timestamp of a time of day on the present day. -/
def ofClock? (cs : List Point) : Option Timestamp := do
  existing? present.toDate (← (strictClock? cs).or (looseClock? cs)) 0

/-- **The timestamp that a date, a date-time or a time of the present day writes.** -/
def ofIso? (text : Text) : Option Timestamp :=
  if text = "now" then some present
  else (ofStrict? text.toList).or ((ofLoose? text.toList).or (ofClock? text.toList))

end Timestamp

end Admission.Time
