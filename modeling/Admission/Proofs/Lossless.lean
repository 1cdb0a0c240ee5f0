import Admission.Proofs.Overflow

/-!
# Values that lose nothing

JSON whose integers fit 64 bits, signed or not, is found again in its value. The value says of each
number which type it got, and without the types it is the JSON that it was made of. So no two such
documents have one value: `1`, `1.0` and `true` stay three values, however deep they stand.

* `Document.Fits64`: JSON whose integers fit 64 bits.
* `Document.typed`: such JSON with the types of values.
* `Value.erase?`: a value without its types.
* `Bridge.plainEntries_fresh`: entries with new keys are put behind the others.
* `Bridge.plain_typed`: the value of JSON is the JSON with types.
* `Bridge.plain_lossless`: **the value of JSON loses nothing.**
-/

namespace Admission

/-! ### Types and no types -/

namespace Document

mutual

/-- The integers in a document, at all depths. -/
def integers : Document → List Int
  | .int n => [n]
  | .list items => itemIntegers items
  | .object members => memberIntegers members
  | _ => []

/-- The integers in a row of documents. -/
def itemIntegers : List Document → List Int
  | [] => []
  | d :: ds => integers d ++ itemIntegers ds

/-- The integers in the values of members. -/
def memberIntegers : List (Text × Document) → List Int
  | [] => []
  | (_, d) :: ms => integers d ++ memberIntegers ms

end

/-- **All integers in a document fit 64 bits,** signed or not. -/
def Fits64 (d : Document) : Prop := ∀ n ∈ d.integers, -2 ^ 63 ≤ n ∧ n ≤ 2 ^ 64 - 1

instance (d : Document) : Decidable d.Fits64 :=
  inferInstanceAs (Decidable (∀ n ∈ d.integers, -2 ^ 63 ≤ n ∧ n ≤ 2 ^ 64 - 1))

theorem fits64_int {n : Int} : (Document.int n).Fits64 ↔ -2 ^ 63 ≤ n ∧ n ≤ 2 ^ 64 - 1 := by
  simp [Fits64, integers]

theorem fits64_list {items : List Document} :
    (Document.list items).Fits64 ↔ ∀ d ∈ items, d.Fits64 := by
  have hitems : itemIntegers items = items.flatMap integers := by
    induction items with
    | nil => rfl
    | cons d ds ih => rw [itemIntegers, ih, List.flatMap_cons]
  simp only [Fits64, integers, hitems, List.mem_flatMap]
  exact ⟨fun h d hd n hn => h n ⟨d, hd, hn⟩, fun h n ⟨d, hd, hn⟩ => h d hd n hn⟩

theorem fits64_object {members : List (Text × Document)} :
    (Document.object members).Fits64 ↔ ∀ m ∈ members, m.2.Fits64 := by
  have hmembers : memberIntegers members = members.flatMap fun m => m.2.integers := by
    induction members with
    | nil => rfl
    | cons m ms ih => rw [memberIntegers, ih, List.flatMap_cons]
  simp only [Fits64, integers, hmembers, List.mem_flatMap]
  exact ⟨fun h m hm n hn => h n ⟨m, hm, hn⟩, fun h n ⟨m, hm, hn⟩ => h m hm n hn⟩

mutual

/-- **JSON with the types of values.** An integer is signed up to the greatest signed integer of 64
bits and unsigned beyond it, and a boolean is no number. Maps keep the order of the members. -/
def typed : Document → Value
  | .null => .null
  | .bool b => .ofBool b
  | .int n => if n ≤ 2 ^ 63 - 1 then .int .typed n else .uint n.toNat
  | .float x => .ofFloat .typed x
  | .text s => .text .typed s
  | .list items => .list .typed (typedItems items)
  | .object members => .map .plain (typedMembers members)

/-- A row of documents with types. -/
def typedItems : List Document → List Value
  | [] => []
  | d :: ds => typed d :: typedItems ds

/-- Members with types. -/
def typedMembers : List (Text × Document) → List (Value × Value)
  | [] => []
  | (k, d) :: ms => (.text .typed k, typed d) :: typedMembers ms

end

/-- A member with types. -/
def typedMember (m : Text × Document) : Value × Value := (.text .typed m.1, m.2.typed)

theorem typed_list (items : List Document) :
    (Document.list items).typed = .list .typed (items.map typed) := by
  have hitems : typedItems items = items.map typed := by
    induction items with
    | nil => rfl
    | cons d ds ih => rw [typedItems, ih, List.map_cons]
  rw [typed, hitems]

theorem typed_object (members : List (Text × Document)) :
    (Document.object members).typed = .map .plain (members.map typedMember) := by
  have hmembers : typedMembers members = members.map typedMember := by
    induction members with
    | nil => rfl
    | cons m ms ih => rw [typedMembers, ih, List.map_cons, typedMember]
  rw [typed, hmembers]

end Document

namespace Value

mutual

/-- **A value without its types,** if it is one that JSON has. -/
def erase? : Value → Option Document
  | .null => some .null
  | .bool n => some (.bool (n != 0))
  | .int _ n => some (.int n)
  | .uint n => some (.int n)
  | .double _ x _ => some (.float x)
  | .text _ s => some (.text s)
  | .list _ xs => (eraseItems? xs).map .list
  | .map _ es => (eraseEntries? es).map .object
  | _ => none

/-- A row of values without their types. -/
def eraseItems? : List Value → Option (List Document)
  | [] => some []
  | x :: xs => do return (← erase? x) :: (← eraseItems? xs)

/-- Entries with texts for keys without their types. -/
def eraseEntries? : List (Value × Value) → Option (List (Text × Document))
  | [] => some []
  | (.text _ k, x) :: es => do return (k, ← erase? x) :: (← eraseEntries? es)
  | _ :: _ => none

end

theorem eraseItems?_typed {items : List Document}
    (h : ∀ d ∈ items, d.typed.erase? = some d) :
    eraseItems? (items.map Document.typed) = some items := by
  induction items with
  | nil => rfl
  | cons d ds ih =>
    obtain ⟨hd, hds⟩ := List.forall_mem_cons.1 h
    rw [List.map_cons, eraseItems?, hd, ih hds]
    rfl

theorem eraseEntries?_typed {members : List (Text × Document)}
    (h : ∀ m ∈ members, m.2.typed.erase? = some m.2) :
    eraseEntries? (members.map Document.typedMember) = some members := by
  induction members with
  | nil => rfl
  | cons m ms ih =>
    obtain ⟨hm, hms⟩ := List.forall_mem_cons.1 h
    rw [List.map_cons, Document.typedMember, eraseEntries?, hm, ih hms]
    rfl

/-- **JSON with types is the same JSON without them.** -/
theorem erase?_typed (d : Document) : d.typed.erase? = some d := by
  induction d using Document.byParts with
  | list items ih => rw [Document.typed_list, erase?, eraseItems?_typed ih, Option.map_some]
  | object members ih =>
    rw [Document.typed_object, erase?, eraseEntries?_typed ih, Option.map_some]
  | bool b => cases b <;> rfl
  | int n =>
    rw [Document.typed]
    split
    · rfl
    · next h =>
      -- only integers beyond the signed ones count as unsigned
      have hn : (n.toNat : Int) = n := Int.toNat_of_nonneg (by omega)
      rw [erase?, hn]
  | null | float | text => rfl

end Value

namespace Bridge

/-! ### Values of JSON -/

/-- An integer of 64 bits is signed if it can be, and else unsigned. -/
theorem ofInt_typed {n : Int} (h : -2 ^ 63 ≤ n ∧ n ≤ 2 ^ 64 - 1) :
    ofInt n = .ok (Document.int n).typed := by
  rw [ofInt, Document.typed]
  by_cases hle : n ≤ 2 ^ 63 - 1
  · have hint : Value.int? n = some (.int .typed n) := by
      rw [Value.int?, if_pos]
      simp only [Value.leastInt, Value.greatestInt]
      omega
    rw [hint, if_pos hle]
    rfl
  · have hint : Value.int? n = none := by
      rw [Value.int?, if_neg]
      simp only [Value.greatestInt]
      omega
    have huint : Value.uint? n = some (.uint n.toNat) := by
      rw [Value.uint?, if_pos]
      simp only [Value.greatestUint]
      omega
    rw [hint, huint, if_neg hle]
    rfl

/-- A text that is not yet a key is put behind the others. -/
theorem putEntry_fresh {s : Text} (v : Value) {before : List (Text × Document)}
    (h : s ∉ before.map Prod.fst) :
    putEntry (.text .typed s) v (before.map Document.typedMember) =
      .ok (before.map Document.typedMember ++ [(.text .typed s, v)]) := by
  induction before with
  | nil => rfl
  | cons m ms ih =>
    obtain ⟨hne, hms⟩ := not_or.1 (mt List.mem_cons.2 h)
    rw [List.map_cons, Document.typedMember, putEntry_text_cons, if_neg (Ne.symm hne), ih hms]
    rfl

/-- **Entries with new keys are put behind the others,** in their order. -/
theorem plainEntries_fresh (before : List (Text × Document)) {members : List (Text × Document)}
    (hk : ((before ++ members).map Prod.fst).Nodup)
    (h : ∀ m ∈ members, plain (.ofDocument m.2) = .ok m.2.typed) :
    plainEntries (before.map Document.typedMember)
        (members.map fun m => (.text m.1, .ofDocument m.2)) =
      .ok ((before ++ members).map Document.typedMember) := by
  induction members generalizing before with
  | nil => rw [List.append_nil]; rfl
  | cons m ms ih =>
    obtain ⟨hm, hms⟩ := List.forall_mem_cons.1 h
    -- the member at hand joins those that were put before
    have hsplit : before ++ m :: ms = (before ++ [m]) ++ ms := by simp
    have hfresh : m.1 ∉ before.map Prod.fst := by
      rw [List.map_append, List.nodup_append] at hk
      exact fun hmem => hk.2.2 _ hmem _ List.mem_cons_self rfl
    have hput := putEntry_fresh m.2.typed hfresh
    have hrest := ih (before ++ [m]) (hsplit ▸ hk) hms
    rw [List.map_append] at hrest
    rw [List.map_cons, plainEntries, hm, hsplit]
    change (putEntry (.text .typed m.1) m.2.typed (before.map Document.typedMember) >>=
      fun mid => plainEntries mid _) = _
    rw [hput]
    exact hrest

/-- **The value of JSON is the JSON with types,** if its integers fit 64 bits. -/
theorem plain_typed {d : Document} (hw : d.wellKeyed) (hd : d.Fits64) :
    plain (.ofDocument d) = .ok d.typed := by
  induction d using Document.byParts with
  | list items ih =>
    rw [Document.wellKeyed_list] at hw
    rw [Document.fits64_list] at hd
    have hitems : items.mapM (plain ∘ Datum.ofDocument) = .ok (items.map Document.typed) :=
      List.mapM_eq_ok fun d hmem => ih d hmem (hw d hmem) (hd d hmem)
    rw [Datum.ofDocument_list, plain, plainItems_eq, List.mapM_map, hitems, Document.typed_list]
    rfl
  | object members ih =>
    -- no key is there twice, so each entry is put behind the others
    obtain ⟨hk, hw⟩ := Document.wellKeyed_object.1 hw
    rw [Document.fits64_object] at hd
    have hentries := plainEntries_fresh [] hk fun m hm => ih m hm (hw m hm) (hd m hm)
    rw [Datum.ofDocument_object, plain, Document.typed_object]
    exact congrArg (Except.map (Value.map .plain)) hentries
  | int n => exact ofInt_typed (Document.fits64_int.1 hd)
  | null | bool | float | text => rfl

/-- What it means that the value of a document loses nothing. -/
structure Lossless (d : Document) : Prop where
  /-- The value is the document with types. -/
  value : plain (.ofDocument d) = .ok d.typed
  /-- Without the types, the value is the document. -/
  erased : d.typed.erase? = some d
  /-- No other document whose integers fit 64 bits has the same value. -/
  injective : ∀ d' : Document, d'.wellKeyed → d'.Fits64 →
    plain (.ofDocument d') = plain (.ofDocument d) → d' = d

/-- **The value of JSON loses nothing,** if its integers fit 64 bits. -/
theorem plain_lossless {d : Document} (hw : d.wellKeyed) (hd : d.Fits64) : Lossless d where
  value := plain_typed hw hd
  erased := Value.erase?_typed d
  injective d' hw' hd' h := by
    -- one value has one document behind its types
    rw [plain_typed hw' hd', plain_typed hw hd] at h
    have herase := congrArg Value.erase? (Except.ok.inj h)
    rw [Value.erase?_typed, Value.erase?_typed] at herase
    exact Option.some.inj herase

/-- Numbers that are equal, and the boolean that counts as one, at the least and the greatest
integers of each type. -/
def likeNumbers : Document :=
  .list [.int 1, .float 1.0, .bool true,
    .object [("signed", .list [.int (-2 ^ 63), .int (2 ^ 63 - 1)]),
      ("unsigned", .list [.int (2 ^ 63), .int (2 ^ 64 - 1)]), ("none", .null)]]

/-- Numbers that are equal stay apart. -/
theorem plain_lossless_likeNumbers :
    likeNumbers.wellKeyed ∧ likeNumbers.Fits64 ∧ Lossless likeNumbers := by
  have hw : likeNumbers.wellKeyed := by decide
  have hd : likeNumbers.Fits64 := by decide
  exact ⟨hw, hd, plain_lossless hw hd⟩

end Bridge

end Admission
