import Mathlib.Logic.Relation
import Admission.Proofs.Overflow

/-!
# Data that are refused

A datum without a value either has an integer that is beyond every float, or is refused: it holds a
thing that rules know nothing about, or a map with a key that cannot be one. Where all integers are
within the floats, only the latter is left, whatever the schema is.

* `Datum.Outsized`: data with an integer beyond every float, in their keys as well.
* `Datum.Within`: a datum and all that it is made of.
* `Bridge.Refused`, `Bridge.HoldsRefused`: data that are refused on their own, and data that hold
  some.
* `Bridge.convert_ne_tooLarge`: **no conversion stops where no integer is beyond every float.**
* `Bridge.exists_convert_of_not_holdsRefused`, `Bridge.convert_ne_ok_of_holdsRefused`: then data
  have a value under a node iff they hold nothing that is refused.
-/

namespace Admission

namespace Datum

/-! ### Integers beyond every float -/

/-- **An integer somewhere in the datum is beyond every float,** in a key as well. -/
inductive Outsized : Datum → Prop
  | int {n : Int} (h : Decimal.overflowBound ≤ n.natAbs) : Outsized (.int n)
  | item {items d} (hd : d ∈ items) (h : Outsized d) : Outsized (.list items)
  | key {entries e} (he : e ∈ entries) (h : Outsized e.1) : Outsized (.map entries)
  | value {entries e} (he : e ∈ entries) (h : Outsized e.2) : Outsized (.map entries)

theorem outsized_int {n : Int} :
    (Datum.int n).Outsized ↔ Decimal.overflowBound ≤ n.natAbs :=
  ⟨fun h => by cases h; assumption, .int⟩

theorem outsized_list {items : List Datum} :
    (Datum.list items).Outsized ↔ ∃ d ∈ items, d.Outsized := by
  constructor
  · intro h
    cases h with
    | item hd h => exact ⟨_, hd, h⟩
  · rintro ⟨d, hd, h⟩
    exact .item hd h

/-- A whole with an outsized part is outsized. -/
theorem Outsized.of_part {d d' : Datum} (h : d'.Outsized) (hp : IsPart d' d) : d.Outsized := by
  cases hp with
  | item hd => exact .item hd h
  | value he => exact .value he h

/-! ### All that a datum is made of -/

/-- **A datum within another:** this one itself, or a part of it, or a part of a part, and so on. -/
def Within (d' d : Datum) : Prop := Relation.ReflTransGen IsPart d' d

theorem Within.refl (d : Datum) : d.Within d := Relation.ReflTransGen.refl

theorem Within.part {d d' d'' : Datum} (h : d'.Within d) (hp : IsPart d'' d') : d''.Within d :=
  Relation.ReflTransGen.head hp h

/-- What passes from data to their parts passes to all that they are made of. -/
theorem Within.invariant {Q : Datum → Prop} (part : ∀ {d d'}, Q d → IsPart d' d → Q d')
    {d d' : Datum} (h : d'.Within d) (hd : Q d) : Q d' := by
  induction h with
  | refl => exact hd
  | tail _ hp ih => exact ih (part hd hp)

end Datum

namespace Bridge

open Datum SchemaNode

variable {σ : Type} [SchemaNode σ]

/-! ### Conversions that do not stop -/

/-- The conversion is not stopped by an integer beyond every float. -/
def Spared {α : Type} (r : Except Fault α) : Prop := r ≠ .error .tooLarge

namespace Spared

variable {α β : Type} {r : Except Fault α}

theorem ok (a : α) : Spared (.ok a : Except Fault α) := fun h => nomatch h

theorem error {f : Fault} (hf : f ≠ .tooLarge) : Spared (.error f : Except Fault α) :=
  fun h => hf (Except.error.inj h)

theorem map (f : α → β) (hr : Spared r) : Spared (r.map f) :=
  fun h => hr (Except.map_eq_error_iff.1 h)

theorem bind {f : α → Except Fault β} (hr : Spared r) (hf : ∀ a, Spared (f a)) :
    Spared (r >>= f) := by
  intro h
  rcases Except.bind_eq_error_iff.1 h with h | ⟨a, -, h⟩
  · exact hr h
  · exact hf a h

theorem mapM {f : β → Except Fault α} {l : List β} (hf : ∀ b ∈ l, Spared (f b)) :
    Spared (l.mapM f) := by
  intro h
  obtain ⟨b, hb, h⟩ := List.exists_of_mapM_eq_error h
  exact hf b hb h

end Spared

/-- What is wrong with a key has nothing to do with its size. -/
theorem putEntry_spared (key value : Value) (before : List (Value × Value)) :
    Spared (putEntry key value before) := by
  induction before with
  | nil =>
    rw [putEntry]
    split
    · exact .ok _
    · exact .error (by decide)
  | cons e rest ih =>
    obtain ⟨k, v⟩ := e
    rw [putEntry]
    split
    · exact .error (by decide)
    · split
      · exact ih.map _
      · split
        · exact .error (by decide)
        · exact .ok _
        · exact ih.map _

theorem plainEntries_spared {entries : List (Datum × Datum)}
    (hk : ∀ e ∈ entries, Spared (plain e.1)) (hv : ∀ e ∈ entries, Spared (plain e.2))
    (before : List (Value × Value)) : Spared (plainEntries before entries) := by
  induction entries generalizing before with
  | nil => exact .ok before
  | cons e rest ih =>
    obtain ⟨k, d⟩ := e
    obtain ⟨hkey, hkeys⟩ := List.forall_mem_cons.1 hk
    obtain ⟨hvalue, hvalues⟩ := List.forall_mem_cons.1 hv
    rw [plainEntries]
    refine hkey.bind fun key => hvalue.bind fun value => ?_
    exact (putEntry_spared key value before).bind fun after => ih hkeys hvalues after

theorem convertEntries_spared {node : σ} {entries : List (Datum × Datum)}
    (hk : ∀ e ∈ entries, Spared (plain e.1))
    (hv : ∀ e ∈ entries, ∀ n : Option σ, Spared (convert n e.2))
    (before : List (Value × Value)) : Spared (convertEntries node before entries) := by
  induction entries generalizing before with
  | nil => exact .ok before
  | cons e rest ih =>
    obtain ⟨k, d⟩ := e
    obtain ⟨hkey, hkeys⟩ := List.forall_mem_cons.1 hk
    obtain ⟨hvalue, hvalues⟩ := List.forall_mem_cons.1 hv
    rw [convertEntries]
    refine (hvalue _).bind fun value => hkey.bind fun key => ?_
    exact (putEntry_spared key value before).bind fun after => ih hkeys hvalues after

/-- **No conversion stops where no integer is beyond every float.** -/
theorem convert_ne_tooLarge {d : Datum} (h : ¬ d.Outsized) (node : Option σ) :
    convert node d ≠ .error .tooLarge := by
  induction d using Datum.byParts generalizing node with
  | list items ih =>
    have hitems : ∀ d ∈ items, ¬ d.Outsized := fun d hd hout => h (.item hd hout)
    rw [convert_list_eq node items 0]
    exact (Spared.mapM fun d hd => ih d hd (hitems d hd) _).map _
  | map entries ih =>
    -- parts of what is not outsized are not outsized
    have hkeys : ∀ e ∈ entries, Spared (plain e.1) := fun e he => by
      have hkey := (ih e he).1 (fun hout => h (.key he hout)) none
      rwa [convert_none] at hkey
    have hvalues : ∀ e ∈ entries, ∀ n : Option σ, Spared (convert n e.2) := fun e he =>
      (ih e he).2 fun hout => h (.value he hout)
    have hplain : Spared (plain (.map entries)) := by
      rw [plain]
      refine (plainEntries_spared hkeys (fun e he => ?_) []).map _
      have hvalue := hvalues e he none
      rwa [convert_none] at hvalue
    cases node with
    | none => exact hplain
    | some n =>
      rw [convert]
      split
      · exact (convertEntries_spared hkeys hvalues []).map _
      · exact hplain
  | leaf d hleaf =>
    cases d with
    | int n =>
      intro hstop
      exact h (outsized_int.2 ((ofInt_stopsIff n).error_iff.1 hstop))
    | list | map => cases hleaf
    | foreign thing => exact Spared.error (by simp)
    | _ => exact Spared.ok _

/-! ### Data that are refused -/

/-- **The datum is refused:** it has no value on its own, and not for the size of an integer. -/
def Refused (d : Datum) : Prop := ∃ f, plain d = .error f ∧ f ≠ .tooLarge

/-- Things that rules know nothing about are refused. -/
theorem refused_foreign (thing : Foreign) : Refused (.foreign thing) :=
  ⟨_, rfl, fun h => nomatch h⟩

/-- **Something within the datum is refused.** -/
def HoldsRefused (d : Datum) : Prop := ∃ d', d'.Within d ∧ Refused d'

/-- What holds something refused has no value, under any node. -/
theorem convert_ne_ok_of_holdsRefused {d : Datum} (h : HoldsRefused d) (node : Option σ)
    (x : Value) : convert node d ≠ .ok x := by
  intro hx
  obtain ⟨d', hd', f, hf, -⟩ := h
  have hwhole : HasValue d := (exists_convert_iff node).1 ⟨x, hx⟩
  obtain ⟨y, hy⟩ := hd'.invariant HasValue.of_part hwhole
  rw [hf] at hy
  cases hy

/-- **What holds nothing refused has a value** under every node, if no integer in it is beyond every
float. -/
theorem exists_convert_of_not_holdsRefused {d : Datum} (hd : ¬ d.Outsized)
    (h : ¬ HoldsRefused d) (node : Option σ) : ∃ x, convert node d = .ok x := by
  rw [exists_convert_iff]
  cases hp : plain d with
  | ok x => exact ⟨x, hp⟩
  | error f =>
    -- then the datum itself would be refused
    have hsize : f ≠ .tooLarge := by
      rintro rfl
      have hstop := convert_ne_tooLarge hd (none : Option σ)
      rw [convert_none] at hstop
      exact hstop hp
    exact absurd ⟨d, .refl d, f, hp, hsize⟩ h

end Bridge

end Admission
