import Admission.Proofs.Convertible
import Admission.Proofs.FloatRange
import Admission.Proofs.Json

/-!
# What stops a conversion

JSON has a value under every schema node, unless an integer somewhere in it is beyond every float.
Such an integer stops the conversion, and nothing else does.

* `Datum.Overflows`: data with an integer beyond every float, which can be decided.
* `Bridge.StopsIff`: computations that come to an answer, or stop at such an integer if something
  holds, with the lemmas that follow them through sequences and lists.
* `Bridge.convert_stopsIff`: **JSON has a value iff it does not overflow.**
-/

namespace Admission

/-- **An integer somewhere in the datum is beyond every float.** Keys do not count. -/
inductive Datum.Overflows : Datum → Prop
  | int {n : Int} (h : Decimal.overflowBound ≤ n.natAbs) : Overflows (.int n)
  | list {items d} (hd : d ∈ items) (h : Overflows d) : Overflows (.list items)
  | map {entries e} (he : e ∈ entries) (h : Overflows e.2) : Overflows (.map entries)

namespace Datum

@[simp] theorem overflows_int {n : Int} :
    (Datum.int n).Overflows ↔ Decimal.overflowBound ≤ n.natAbs :=
  ⟨fun h => by cases h; assumption, .int⟩

@[simp] theorem overflows_list {items : List Datum} :
    (Datum.list items).Overflows ↔ ∃ d ∈ items, d.Overflows := by
  constructor
  · intro h
    cases h with
    | list hd h => exact ⟨_, hd, h⟩
  · rintro ⟨d, hd, h⟩
    exact .list hd h

@[simp] theorem overflows_map {entries : List (Datum × Datum)} :
    (Datum.map entries).Overflows ↔ ∃ e ∈ entries, e.2.Overflows := by
  constructor
  · intro h
    cases h with
    | map he h => exact ⟨_, he, h⟩
  · rintro ⟨e, he, h⟩
    exact .map he h

mutual

/-- Whether an integer somewhere in a datum is beyond every float. -/
def overflows : Datum → Bool
  | .int n => decide (Decimal.overflowBound ≤ n.natAbs)
  | .list items => itemsOverflow items
  | .map entries => entriesOverflow entries
  | _ => false

/-- Whether an integer somewhere in a row of data is beyond every float. -/
def itemsOverflow : List Datum → Bool
  | [] => false
  | d :: ds => overflows d || itemsOverflow ds

/-- Whether an integer somewhere in the values of entries is beyond every float. -/
def entriesOverflow : List (Datum × Datum) → Bool
  | [] => false
  | (_, d) :: es => overflows d || entriesOverflow es

end

theorem itemsOverflow_iff {items : List Datum} :
    itemsOverflow items ↔ ∃ d ∈ items, d.overflows := by
  induction items with
  | nil => simp [itemsOverflow]
  | cons d ds ih => simp [itemsOverflow, ih]

theorem entriesOverflow_iff {entries : List (Datum × Datum)} :
    entriesOverflow entries ↔ ∃ e ∈ entries, e.2.overflows := by
  induction entries with
  | nil => simp [entriesOverflow]
  | cons e es ih => simp [entriesOverflow, ih]

/-- **Overflowing can be decided.** -/
theorem overflows_iff {d : Datum} : d.overflows ↔ d.Overflows := by
  induction d using Datum.byParts with
  | list items ih =>
    rw [overflows, itemsOverflow_iff, overflows_list]
    exact exists_congr fun d => and_congr_right (ih d)
  | map entries ih =>
    rw [overflows, entriesOverflow_iff, overflows_map]
    exact exists_congr fun e => and_congr_right fun he => (ih e he).2
  | leaf d hleaf =>
    cases d with
    | int n => rw [overflows, overflows_int, decide_eq_true_iff]
    | list | map => cases hleaf
    | _ => exact ⟨fun h => (nomatch h), fun h => (nomatch h)⟩

instance (d : Datum) : Decidable d.Overflows := decidable_of_iff _ overflows_iff

end Datum

namespace Bridge

/-! ### Computations that may stop -/

/-- **A computation that stops at an integer beyond every float iff `p` holds,** and else comes to
an answer. -/
inductive StopsIff {α : Type} (p : Prop) : Except Fault α → Prop
  | ok {a} (h : ¬ p) : StopsIff p (.ok a)
  | tooLarge (h : p) : StopsIff p (.error .tooLarge)

namespace StopsIff

variable {α β : Type} {p q : Prop} {r : Except Fault α}

theorem congr (h : p ↔ q) (hr : StopsIff p r) : StopsIff q r := propext h ▸ hr

theorem map (f : α → β) (hr : StopsIff p r) : StopsIff p (f <$> r) := by
  cases hr with
  | ok h => exact .ok h
  | tooLarge h => exact .tooLarge h

/-- A sequence stops where its first part does, or the second on the answer of the first. -/
theorem bind {f : α → Except Fault β} (hr : StopsIff p r)
    (hf : ∀ a, r = .ok a → StopsIff q (f a)) : StopsIff (p ∨ q) (r >>= f) := by
  cases hr with
  | @ok a h => exact (hf a rfl).congr (by simp [h])
  | tooLarge h => exact .tooLarge (.inl h)

/-- A row of computations stops where one of them does. -/
theorem mapM {f : β → Except Fault α} {P : β → Prop} {l : List β}
    (hf : ∀ b ∈ l, StopsIff (P b) (f b)) : StopsIff (∃ b ∈ l, P b) (l.mapM f) := by
  induction l with
  | nil => exact .ok (by simp)
  | cons b l ih =>
    have hl := ih fun c hc => hf c (List.mem_cons_of_mem b hc)
    rw [List.mapM_cons]
    refine ((hf b List.mem_cons_self).bind fun a _ => hl.map (a :: ·)).congr ?_
    simp

theorem flatMapM {f : β → Except Fault (List α)} {P : β → Prop} {l : List β}
    (hf : ∀ b ∈ l, StopsIff (P b) (f b)) : StopsIff (∃ b ∈ l, P b) (l.flatMapM f) := by
  rw [List.flatMapM_eq_mapM]
  exact (mapM hf).map List.flatten

theorem ok_iff (hr : StopsIff p r) : (∃ a, r = .ok a) ↔ ¬ p := by
  cases hr with
  | @ok a h => exact ⟨fun _ => h, fun _ => ⟨a, rfl⟩⟩
  | tooLarge h => exact ⟨fun ⟨_, ha⟩ => (nomatch ha), fun hn => absurd h hn⟩

theorem error_iff (hr : StopsIff p r) : r = .error .tooLarge ↔ p := by
  cases hr with
  | ok h => exact ⟨fun he => (nomatch he), fun hp => absurd hp h⟩
  | tooLarge h => exact ⟨fun _ => h, fun _ => rfl⟩

end StopsIff

/-! ### Numbers and keys -/

/-- The integers of 64 bits, signed or not, are far below the greatest float. -/
theorem ofInt_stopsIff (n : Int) :
    StopsIff (Decimal.overflowBound ≤ n.natAbs) (ofInt n) := by
  have hbound : 18446744073709551616 < Decimal.overflowBound := by decide +kernel
  rw [ofInt]
  cases hv : (Value.int? n).or (Value.uint? n) with
  | some v =>
    -- an integer beyond every float has none of the types of 64 bits
    refine .ok fun h => ?_
    have hi : Value.int? n = none := by
      rw [Value.int?, if_neg]
      simp only [Value.leastInt, Value.greatestInt]
      omega
    have hu : Value.uint? n = none := by
      rw [Value.uint?, if_neg]
      simp only [Value.greatestUint]
      omega
    rw [hi, hu] at hv
    cases hv
  | none =>
    cases hx : Decimal.ofInt? n with
    | some x =>
      refine .ok fun h => ?_
      rw [Decimal.ofInt?_eq_none_iff.2 h] at hx
      cases hx
    | none => exact .tooLarge (Decimal.ofInt?_eq_none_iff.1 hx)

/-- Entries whose keys are texts. -/
def TextKeys (entries : List (Value × Value)) : Prop := ∀ e ∈ entries, ∃ s, e.1 = .text .typed s

/-- Among texts, a text is put in the place of the same text. -/
theorem putEntry_text_cons (s t : Text) (v w : Value) (rest : List (Value × Value)) :
    putEntry (.text .typed s) v ((.text .typed t, w) :: rest) =
      if t = s then .ok ((.text .typed t, v) :: rest)
      else (putEntry (.text .typed s) v rest).map ((.text .typed t, w) :: ·) := by
  have heq : Value.leafEquals (.text .typed t) (.text .typed s) = some (t == s) := rfl
  have hmeets : Value.meets (.text .typed t) (.text .typed s) = true := rfl
  have hhash : (Value.text .typed s).isHashable = true := rfl
  rw [putEntry, heq, hmeets, hhash]
  by_cases hts : t = s
  · simp [hts]
  · simp [hts, beq_false_of_ne hts]

/-- **A text can be put beside texts,** as a key. -/
theorem putEntry_text (s : Text) (v : Value) {before : List (Value × Value)}
    (h : TextKeys before) :
    ∃ after, putEntry (.text .typed s) v before = .ok after ∧ TextKeys after := by
  induction before with
  | nil => exact ⟨_, rfl, by simp [TextKeys]⟩
  | cons e rest ih =>
    obtain ⟨hk, hrest⟩ := List.forall_mem_cons.1 h
    obtain ⟨k, w⟩ := e
    obtain ⟨t, rfl⟩ := hk
    obtain ⟨after, hput, hafter⟩ := ih hrest
    rw [putEntry_text_cons]
    split
    · exact ⟨_, rfl, List.forall_mem_cons.2 ⟨⟨t, rfl⟩, hrest⟩⟩
    · rw [hput]
      exact ⟨_, rfl, List.forall_mem_cons.2 ⟨⟨t, rfl⟩, hafter⟩⟩

/-! ### Lists and maps -/

variable {σ : Type} [SchemaNode σ]

/-- **A conversion of entries stops where that of a value does.** `F` is the conversion of entries
behind those that were converted before, and `f` that of a value under its key; the keys are
texts and stop nothing. -/
theorem entries_stopsIff
    {F : List (Value × Value) → List (Datum × Datum) → Except Fault (List (Value × Value))}
    {f : Text → Datum → Except Fault Value} (hnil : ∀ before, F before [] = .ok before)
    (hcons : ∀ before s d rest, F before ((.text s, d) :: rest) = do
      let v ← f s d
      let after ← putEntry (.text .typed s) v before
      F after rest)
    {entries : List (Datum × Datum)} (hk : ∀ e ∈ entries, ∃ s, e.1 = .text s)
    (hv : ∀ e ∈ entries, ∀ s, StopsIff e.2.Overflows (f s e.2))
    {before : List (Value × Value)} (hb : TextKeys before) :
    StopsIff (∃ e ∈ entries, e.2.Overflows) (F before entries) := by
  induction entries generalizing before with
  | nil =>
    rw [hnil]
    exact .ok (by simp)
  | cons e rest ih =>
    obtain ⟨k, d⟩ := e
    obtain ⟨s, rfl⟩ : ∃ s, k = .text s := hk _ List.mem_cons_self
    -- the key is put without a fault, so only the value and the rest can stop
    rw [hcons]
    refine ((hv _ List.mem_cons_self s).bind (q := ∃ e ∈ rest, e.2.Overflows)
      fun v _ => ?_).congr (by simp)
    obtain ⟨after, hput, hafter⟩ := putEntry_text s v hb
    rw [hput]
    exact ih (fun e he => hk e (List.mem_cons_of_mem _ he))
      (fun e he => hv e (List.mem_cons_of_mem _ he)) hafter

/-! ### Values of JSON -/

/-- JSON has a value on its own iff it does not overflow. -/
theorem plain_stopsIff {d : Datum} (hd : d.IsJson) : StopsIff d.Overflows (plain d) := by
  induction d using Datum.byParts with
  | list items ih =>
    rw [plain, plainItems_eq]
    refine ((StopsIff.mapM fun d hmem => ih d hmem (hd.items d hmem)).map _).congr ?_
    exact Datum.overflows_list.symm
  | map entries ih =>
    rw [plain]
    refine ((entries_stopsIff (F := plainEntries) (f := fun _ => plain) (fun _ => rfl)
      (fun _ _ _ _ => rfl) (fun e he => (hd.entries e he).1)
      (fun e he _ => (ih e he).2 (hd.entries e he).2) (by simp [TextKeys])).map _).congr ?_
    exact Datum.overflows_map.symm
  | leaf d hleaf =>
    cases d with
    | int n => exact (ofInt_stopsIff n).congr Datum.overflows_int.symm
    | null | bool | float | text => exact .ok (by rintro ⟨⟩)
    | list | map => cases hleaf
    | bytes octets => exact absurd hd (Datum.not_isJson_bytes octets)
    | foreign thing => exact absurd hd (Datum.not_isJson_foreign thing)

/-- **JSON has a value under a schema node iff it does not overflow.** -/
theorem convert_stopsIff {d : Datum} (hd : d.IsJson) (node : Option σ) :
    StopsIff d.Overflows (convert node d) := by
  induction d using Datum.byParts generalizing node with
  | list items ih =>
    rw [convert_list_eq node items 0]
    refine ((StopsIff.mapM fun d hmem => ih d hmem (hd.items d hmem) _).map _).congr ?_
    exact Datum.overflows_list.symm
  | map entries ih =>
    cases node with
    | none => exact plain_stopsIff hd
    | some n =>
      rw [convert]
      split
      · refine ((entries_stopsIff (F := convertEntries n)
          (f := fun s => convert (nodeOf? n (.text s))) (fun _ => rfl)
          (fun _ _ _ _ => rfl) (fun e he => (hd.entries e he).1)
          (fun e he _ => (ih e he).2 (hd.entries e he).2 _) (by simp [TextKeys])).map _).congr ?_
        exact Datum.overflows_map.symm
      · exact plain_stopsIff hd
  | leaf d hleaf =>
    cases d with
    | text s => exact .ok (by rintro ⟨⟩)
    | list | map => cases hleaf
    | _ => exact plain_stopsIff hd

end Bridge

end Admission
