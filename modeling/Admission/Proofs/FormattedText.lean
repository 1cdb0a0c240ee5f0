import Admission.Bridge
import Admission.Proofs.DurationText

/-!
# Texts in a format

Under the format of date-times or durations a text becomes the value that it writes, if it writes
one, and stays a text otherwise. A duration is made of whole seconds and the nanoseconds beyond
them, and the lengths that can be made are bounded. But what a text writes fits 64 bits of
nanoseconds, far below that bound, so no duration is lost on the way.

* `Duration.micros_split`, `Duration.seconds_split`: whole seconds and the rest make up the
  microseconds of the whole.
* `Value.toDuration_bare`: the durations that can be made of seconds and nanoseconds.
* `Bridge.ofNanos_of_parse`: every duration that a text writes can be made.
* `Bridge.Writes`, `Bridge.ofText_writes`: what a text becomes in a format.
* `Bridge.convert_byFormat`: **a text becomes what it writes in the format of its node, or stays.**
-/

namespace Admission

open Time

namespace Time.Duration

/-- Nanoseconds beyond whole seconds are fewer than make a second. -/
theorem rest_split (n : Int) : 0 ≤ (split n).2 ∧ (split n).2 < 1000000000 :=
  ⟨Int.fmod_nonneg_of_pos n (by decide), Int.fmod_lt_of_pos n (by decide)⟩

/-- Rounding the nanoseconds beyond whole seconds down to microseconds is rounding all of them. -/
theorem micros_split (n : Int) :
    (split n).1 * 1000000 + Int.fdiv (split n).2 1000 = Int.fdiv n 1000 := by
  have hsum : (split n).1 * 1000000000 + (split n).2 = n := Int.fdiv_mul_add_fmod n 1000000000
  rw [Int.fdiv_eq_ediv_of_nonneg _ (by decide), Int.fdiv_eq_ediv_of_nonneg _ (by decide)]
  omega

/-- What fits 64 bits of nanoseconds has fewer than ten milliard whole seconds. -/
theorem seconds_split {n : Int} (h : -2 ^ 63 ≤ n ∧ n ≤ 2 ^ 63 - 1) :
    -9999999999 ≤ (split n).1 ∧ (split n).1 ≤ 9999999999 := by
  have hsum : (split n).1 * 1000000000 + (split n).2 = n := Int.fdiv_mul_add_fmod n 1000000000
  have hrest := rest_split n
  omega

end Time.Duration

/-- **Durations are made of whole seconds up to ten thousand years,** either way, and of
nanoseconds beyond them, which count in whole microseconds. -/
theorem Value.toDuration_bare {seconds rest : Int}
    (hs : -greatestSeconds ≤ seconds ∧ seconds ≤ greatestSeconds)
    (hr : 0 ≤ rest ∧ rest < 1000000000) :
    toDuration (.int .bare seconds) (.int .bare rest) =
      .ok (.duration .typed (seconds * 1000000 + Int.fdiv rest 1000)) := by
  have hrange : ¬ (seconds < -greatestSeconds ∨ greatestSeconds < seconds) := by omega
  have hmicros : Int.fdiv rest 1000 = rest / 1000 := Int.fdiv_eq_ediv_of_nonneg _ (by decide)
  have hbare : bareLength (seconds * 1000000 + Int.fdiv rest 1000) =
      .ok (.duration .bare (seconds * 1000000 + Int.fdiv rest 1000)) := by
    rw [hmicros, bareLength, bareDuration?, if_pos]
    · rfl
    · simp only [greatestSeconds] at hs
      omega
  unfold toDuration
  refine Except.bind_eq_ok_iff.2 ⟨seconds, rfl, ?_⟩
  rw [if_neg hrange]
  refine Except.bind_eq_ok_iff.2 ⟨Int.fdiv rest 1000, rfl, ?_⟩
  exact Except.bind_eq_ok_iff.2 ⟨_, hbare, rfl⟩

namespace Bridge

/-- **Every duration that a text writes can be made,** in whole microseconds, rounded down. -/
theorem ofNanos_of_parse {s : Text} {n : Int} (h : Duration.parse s = .ok n) :
    ofNanos n = .ok (.duration .typed (Int.fdiv n 1000)) := by
  have hseconds := Duration.seconds_split (Duration.parse_eq_ok_iff.1 h).bounds
  have hrange : -Value.greatestSeconds ≤ (Duration.split n).1 ∧
      (Duration.split n).1 ≤ Value.greatestSeconds := by
    simp only [Value.greatestSeconds]
    omega
  have hmade := Value.toDuration_bare hrange (Duration.rest_split n)
  rw [Duration.micros_split] at hmade
  exact hmade

/-! ### The formats -/

theorem ofText_dateTime_of_ok {s : Text} {t : Timestamp} (h : Timestamp.parse s = .ok t) :
    ofText (some "date-time") s = .timestamp t := by
  rw [ofText, if_pos rfl, h]

/-- A text that writes no date-time stays a text. -/
theorem ofText_dateTime_of_error {s : Text} {f : Timestamp.Fault}
    (h : Timestamp.parse s = .error f) : ofText (some "date-time") s = .ofString s := by
  rw [ofText, if_pos rfl, h]

theorem ofText_duration_of_ok {s : Text} {n : Int} (h : Duration.parse s = .ok n) :
    ofText (some "duration") s = .duration .typed (Int.fdiv n 1000) := by
  rw [ofText, if_neg (by decide), if_pos rfl, h]
  dsimp only
  rw [ofNanos_of_parse h]
  rfl

/-- A text that writes no duration stays a text. -/
theorem ofText_duration_of_error {s : Text} {f : Duration.Fault}
    (h : Duration.parse s = .error f) : ofText (some "duration") s = .ofString s := by
  rw [ofText, if_neg (by decide), if_pos rfl, h]

/-- A text in another format, or in none, stays a text. -/
theorem ofText_other {format : Option Text} {s : Text} (hd : format ≠ some (.plain "duration"))
    (ht : format ≠ some (.plain "date-time")) : ofText format s = .ofString s := by
  rw [ofText, if_neg ht, if_neg hd]

/-- A text writes a value in a format. -/
inductive Writes (format : Option Text) (s : Text) : Value → Prop
  | dateTime {t} (hf : format = some (.plain "date-time")) (ht : Timestamp.parse s = .ok t) :
      Writes format s (.timestamp t)
  | duration {n} (hf : format = some (.plain "duration")) (hn : Duration.parse s = .ok n) :
      Writes format s (.duration .typed (Int.fdiv n 1000))

/-- What a text becomes in a format is what it writes, or it stays and writes nothing. -/
theorem ofText_writes (format : Option Text) (s : Text) :
    Writes format s (ofText format s) ∨
      ofText format s = .text .typed s ∧ ∀ w, ¬ Writes format s w := by
  -- the formats exclude each other, so a text writes at most one value
  by_cases ht : format = some (.plain "date-time")
  · subst ht
    cases hparse : Timestamp.parse s with
    | ok t =>
      rw [ofText_dateTime_of_ok hparse]
      exact .inl (.dateTime rfl hparse)
    | error f =>
      refine .inr ⟨ofText_dateTime_of_error hparse, ?_⟩
      rintro _ (⟨-, ht⟩ | ⟨hf, -⟩)
      · rw [hparse] at ht
        cases ht
      · exact absurd hf (by decide)
  · by_cases hd : format = some (.plain "duration")
    · subst hd
      cases hparse : Duration.parse s with
      | ok n =>
        rw [ofText_duration_of_ok hparse]
        exact .inl (.duration rfl hparse)
      | error f =>
        refine .inr ⟨ofText_duration_of_error hparse, ?_⟩
        rintro _ (⟨hf, -⟩ | ⟨-, hn⟩)
        · exact absurd hf (by decide)
        · rw [hparse] at hn
          cases hn
    · refine .inr ⟨ofText_other hd ht, ?_⟩
      rintro _ (⟨hf, -⟩ | ⟨hf, -⟩)
      · exact ht hf
      · exact hd hf

/-- **What it means to convert a text by its format.** `r` is what becomes of the text. -/
structure ByFormat (format : Option Text) (s : Text) (r : Except Fault Value) : Prop where
  /-- A text in the format of durations becomes the duration that it writes, in whole microseconds,
  rounded down, and no other. -/
  duration : format = some (.plain "duration") → ∀ o m, r = .ok (.duration o m) ↔
    o = .typed ∧ ∃ n, Duration.parse s = .ok n ∧ m = Int.fdiv n 1000
  /-- If it writes none, it stays. -/
  noDuration : format = some (.plain "duration") → (∀ n, Duration.parse s ≠ .ok n) →
    r = .ok (.ofString s)
  /-- A text in the format of date-times becomes the timestamp that it writes, field by field. -/
  dateTime : format = some (.plain "date-time") →
    ∀ t, r = .ok (.timestamp t) ↔ Timestamp.parse s = .ok t
  /-- If it writes none, it stays. -/
  noDateTime : format = some (.plain "date-time") → (∀ t, Timestamp.parse s ≠ .ok t) →
    r = .ok (.ofString s)
  /-- A text in another format, or in none, stays. -/
  other : format ≠ some (.plain "duration") → format ≠ some (.plain "date-time") →
    r = .ok (.ofString s)
  /-- No duration that a text writes is too long to be made. -/
  made : ∀ n, Duration.parse s = .ok n → ofNanos n = .ok (.duration .typed (Int.fdiv n 1000))

variable {σ : Type} [SchemaNode σ]

/-- **A text becomes what it writes in the format of its node,** and stays a text otherwise; it
always has a value. -/
theorem convert_byFormat (node : Option σ) (s : Text) :
    ByFormat (node.bind SchemaNode.format?) s (convert node (.text s)) := by
  rw [convert]
  constructor
  · intro hformat o m
    rw [hformat, Except.ok.injEq]
    cases hparse : Duration.parse s with
    | ok n =>
      rw [ofText_duration_of_ok hparse, Value.duration.injEq]
      constructor
      · rintro ⟨rfl, rfl⟩
        exact ⟨rfl, n, rfl, rfl⟩
      · rintro ⟨rfl, n', hn, rfl⟩
        exact ⟨rfl, by rw [Except.ok.inj hn]⟩
    | error f =>
      rw [ofText_duration_of_error hparse]
      refine ⟨fun h => (nomatch h), ?_⟩
      rintro ⟨-, n, hn, -⟩
      cases hn
  · intro hformat hno
    cases hparse : Duration.parse s with
    | ok n => exact absurd hparse (hno n)
    | error f => rw [hformat, ofText_duration_of_error hparse]
  · intro hformat t
    rw [hformat, Except.ok.injEq]
    cases hparse : Timestamp.parse s with
    | ok t' =>
      rw [ofText_dateTime_of_ok hparse, Value.timestamp.injEq, Except.ok.injEq]
    | error f =>
      rw [ofText_dateTime_of_error hparse]
      exact ⟨fun h => (nomatch h), fun h => (nomatch h)⟩
  · intro hformat hno
    cases hparse : Timestamp.parse s with
    | ok t => exact absurd hparse (hno t)
    | error f => rw [hformat, ofText_dateTime_of_error hparse]
  · intro hd ht
    rw [ofText_other hd ht]
  · exact fun n => ofNanos_of_parse

end Bridge

end Admission
