import Admission.Proofs.Overflow
import Admission.Proofs.Regular

/-!
# Values of wholes and of parts

The value of a part can be had in two ways: as the part of the value of the whole, and as the value
of the part under its own node. The node of a part is looked up by one piece of code when the whole
is converted and by another when it is walked. Both find the same node, so both values are the same.

* `Value.Shows`: the value that an expression finds along an edge.
* `Bridge.Puts.get?`: each entry of a map is found among the converted ones.
* `Bridge.convert_along`: a converted value shows along each edge the part there, converted.
* `Bridge.nodeAlong?_of_mem_branches`: the node of a branch is the one that its value is converted
  with.
* `Validator.branches_shared`: **a rule of a value sees along each branch the value that the rules
  there see.**
-/

namespace Admission

open SchemaNode Datum Validator

variable {σ τ : Type} [SchemaNode σ] [SchemaNode τ]

/-! ### Parts of values -/

namespace Datum

/-- The JSON type of a datum that has parts. -/
def container? : Datum → Option Text
  | .map _ => some "object"
  | .list _ => some "array"
  | _ => none

theorem container?_of_along? {d v : Datum} {e : Edge} (h : d.along? e = some v) :
    d.container? = some e.container := by
  cases e <;> cases d <;> first | rfl | cases h

end Datum

namespace Value

/-- **What an expression finds along an edge of a value:** under a name as a field and by index, at
a position by index. -/
def Shows (x : Value) : Edge → Value → Prop
  | .key (.text name), y => x.field? name = some y ∧ x.index? (.ofString name) = some y
  | .key _, _ => False
  | .item i, y => x.index? (.int .typed i) = some y

/-- Among texts, a text is found as the entry of the same text. -/
theorem get?_text_cons (o : Origin) (s t : Text) (v : Value) (rest : List (Value × Value)) :
    get? (.text o s) ((.text .typed t, v) :: rest) =
      if t = s then some v else get? (.text o s) rest := by
  have heq : leafEquals (.text .typed t) (.text o s) = some (t == s) := rfl
  simp only [get?, isKey, lookup, isSame, meets, number?, whole?, heq, Option.map_none]
  by_cases h : t = s
  · simp [h]
  · simp [h, beq_false_of_ne h]

theorem shows_key {entries : List (Value × Value)} {name : Text} {y : Value}
    (h : ∀ o, get? (.text o name) entries = some y) :
    (Value.map .plain entries).Shows (.key (.text name)) y := ⟨h .bare, h .typed⟩

theorem shows_item {items : List Value} {i : Nat} {y : Value} (h : items[i]? = some y) :
    (Value.list .typed items).Shows (.item i) y := by
  have hi : ¬ (i : Int) < 0 := by omega
  simpa [Shows, index?, whole?, at?, hi] using h

end Value

/-! ### Converted entries and items -/

namespace Bridge

/-- Putting a text among texts changes what is found under it, and nothing else. -/
theorem get?_putEntry {s : Text} {v : Value} {before after : List (Value × Value)}
    (hb : TextKeys before) (h : putEntry (.text .typed s) v before = .ok after) (o : Origin)
    (t : Text) :
    Value.get? (.text o t) after = if s = t then some v else Value.get? (.text o t) before := by
  induction before generalizing after with
  | nil =>
    obtain rfl : [(Value.text .typed s, v)] = after := Except.ok.inj h
    exact Value.get?_text_cons o t s v []
  | cons e rest ih =>
    obtain ⟨hk, hrest⟩ := List.forall_mem_cons.1 hb
    obtain ⟨k, w⟩ := e
    obtain ⟨u, rfl⟩ := hk
    rw [putEntry_text_cons] at h
    -- the entry stands in the place of one with its key, or behind those of other keys
    by_cases hus : u = s
    · subst hus
      rw [if_pos rfl] at h
      obtain rfl : (Value.text .typed u, v) :: rest = after := Except.ok.inj h
      rw [Value.get?_text_cons, Value.get?_text_cons]
      split <;> rfl
    · rw [if_neg hus] at h
      obtain ⟨after', hput, rfl⟩ := Except.map_eq_ok_iff.1 h
      rw [Value.get?_text_cons, Value.get?_text_cons, ih hrest hput]
      by_cases hut : u = t
      · have hst : s ≠ t := fun hst => hus (hut.trans hst.symm)
        rw [if_pos hut, if_pos hut, if_neg hst]
      · rw [if_neg hut, if_neg hut]

theorem textKeys_of_putEntry {s : Text} {v : Value} {before after : List (Value × Value)}
    (hb : TextKeys before) (h : putEntry (.text .typed s) v before = .ok after) :
    TextKeys after := by
  obtain ⟨after', hput, hafter⟩ := putEntry_text s v hb
  exact Except.ok.inj (hput.symm.trans h) ▸ hafter

section Puts

variable {f : Datum → Datum → Except Fault Value} {before after : List (Value × Value)}
  {entries : List (Datum × Datum)}

/-- A text that is not among the keys of the entries is found, after they are put, as before. -/
theorem Puts.get?_of_ne (h : Puts f before entries after) (hk : ∀ e ∈ entries, ∃ s, e.1 = .text s)
    (hb : TextKeys before) (o : Origin) {t : Text} (ht : ∀ e ∈ entries, e.1 ≠ .text t) :
    Value.get? (.text o t) after = Value.get? (.text o t) before := by
  induction h with
  | nil => rfl
  | cons hkey _ hput _ ih =>
    obtain ⟨⟨s, hs⟩, hrest⟩ := List.forall_mem_cons.1 hk
    obtain ⟨hne, hne'⟩ := List.forall_mem_cons.1 ht
    dsimp only at hs
    subst hs
    obtain rfl := Except.ok.inj hkey
    have hst : s ≠ t := fun hst => hne (congrArg _ hst)
    rw [ih hrest (textKeys_of_putEntry hb hput) hne', get?_putEntry hb hput, if_neg hst]

/-- **Each entry of a map without a key twice is found after they are put.** -/
theorem Puts.get? (h : Puts f before entries after) (hk : ∀ e ∈ entries, ∃ s, e.1 = .text s)
    (hnodup : entries.Pairwise fun e f => ¬ sameKey e.1 f.1) (hb : TextKeys before) {s : Text}
    {d : Datum} (hd : (.text s, d) ∈ entries) :
    ∃ y, f (.text s) d = .ok y ∧ ∀ o, Value.get? (.text o s) after = some y := by
  induction h with
  | nil => cases hd
  | @cons before mid after k c rest key v hkey hv hput hputs ih =>
    obtain ⟨⟨t, ht⟩, hrest⟩ := List.forall_mem_cons.1 hk
    obtain ⟨hne, hnodup'⟩ := List.pairwise_cons.1 hnodup
    dsimp only at ht
    subst ht
    obtain rfl := Except.ok.inj hkey
    have hmid := textKeys_of_putEntry hb hput
    rcases List.mem_cons.1 hd with heq | hd
    · -- no later entry has this key, so what is put here stays
      cases heq
      have hlater : ∀ e ∈ rest, e.1 ≠ .text s := fun e he heq =>
        hne e he (heq ▸ sameKey_text.2 rfl)
      refine ⟨v, hv, fun o => ?_⟩
      rw [hputs.get?_of_ne hrest hmid o hlater, get?_putEntry hb hput, if_pos rfl]
    · exact ih hrest hnodup' hmid hd

end Puts

/-! ### Values along edges -/

/-- A node speaks of the parts of a datum: it has no type or that of the datum. -/
def Fits (node : σ) (d : Datum) : Prop := type? node = none ∨ type? node = container? d

theorem Fits.accepts {node : σ} {d : Datum} (h : Fits node d) {type : Text}
    (hd : container? d = some type) : accepts node type := by
  rw [Fits, hd] at h
  simpa [Bridge.accepts] using h

/-- **A converted value shows along each edge the part there,** converted under the node that is
looked up for it. -/
theorem convert_along {node : σ} {d d' : Datum} {e : Edge} (hd : d.IsJson) (hw : d.WellKeyed)
    (hfit : Fits node d) {x : Value} (hx : convert (some node) d = .ok x)
    (he : d.along? e = some d') :
    ∃ y, convert (nodeAlong? node e) d' = .ok y ∧ x.Shows e y := by
  cases d with
  | map entries =>
    rw [convert, if_pos (hfit.accepts rfl)] at hx
    obtain ⟨after, hafter, rfl⟩ := Except.map_eq_ok_iff.1 hx
    cases e with
    | item i => cases he
    | key k =>
      obtain ⟨⟨k', d'⟩, hmem, hsame, rfl⟩ := mem_of_lookup he
      -- keys of JSON are texts, so that no two of them are one key of the value
      obtain ⟨s, rfl⟩ : ∃ s, k' = .text s := (hd.entries _ hmem).1
      obtain rfl : k = .text s := text_sameKey.1 hsame
      obtain ⟨y, hy, hget⟩ := (convertEntries_eq_ok_iff.1 hafter).get?
        (fun e he => (hd.entries e he).1) hw.keys (by simp [TextKeys]) hmem
      exact ⟨y, hy, Value.shows_key hget⟩
  | list items =>
    rw [convert, if_pos (hfit.accepts rfl), convertItems_eq] at hx
    obtain ⟨ys, hys, rfl⟩ := Except.map_eq_ok_iff.1 hx
    cases e with
    | key k => cases he
    | item i =>
      obtain ⟨y, hy, hget⟩ := List.getElem?_of_mapM_eq_ok hys he
      exact ⟨y, hy, Value.shows_item hget⟩
  | _ => cases e <;> cases he

/-! ### Nodes of branches -/

/-- A node finds its properties under their names: those that have a node, and no others than
declared ones. -/
structure Keyed (node : σ) : Prop where
  child : ∀ p ∈ properties node, child? node p.1 = some p.2
  declared : ∀ name child, child? node name = some child → hasProperty node name

/-- **The node of a branch is the one that its value is converted with.** -/
theorem nodeAlong?_of_mem_branches {node : σ} (hk : Keyed node) {d : Datum} (hd : d.IsJson)
    {b : Branch σ} (h : b ∈ branches node d) : nodeAlong? node b.edge = some b.node := by
  cases mem_branches_iff.1 h with
  | declared hp _ => simp only [nodeAlong?, nodeOf?, hk.child _ hp]
  | other hc hadd hv =>
    obtain ⟨name, hname⟩ := (hd.entries _ hv).1
    dsimp only at hname
    subst hname
    -- a key that is not declared has no node of its own
    have hno : hasProperty node name = false := by simpa [isAdditional] using hadd
    have hchild : child? node name = none := by
      refine Option.eq_none_iff_forall_ne_some.2 fun child h => ?_
      rw [hk.declared name child h] at hno
      cases hno
    simp [nodeAlong?, nodeOf?, hchild, hno, hc]
  | item hc _ => exact hc

end Bridge

open Bridge

theorem RawSchema.WellKeyed.keyed {s : RawSchema} (hs : s.WellKeyed) : Keyed s where
  child p hp := (s.lookup_nodes p.1).symm.trans
    (Document.lookup_of_mem hp (RawSchema.regular.nodup hs))
  declared _ _ h := lookup_declared_of_child? (Option.isSome_of_eq_some h)

theorem SchemaNode.Mirror.keyed {f : σ → τ} (hf : Mirror f) {node : σ} (h : Keyed node) :
    Keyed (f node) where
  child p hp := by
    rw [hf.properties] at hp
    obtain ⟨q, hq, rfl⟩ := List.mem_map.1 hp
    rw [hf.child?]
    exact congrArg (Option.map f) (h.child q hq)
  declared name child hc := by
    rw [hf.child?] at hc
    obtain ⟨m, hm, -⟩ := Option.map_eq_some_iff.1 hc
    rw [hf.hasProperty]
    exact h.declared name m hm

/-! ### Branches -/

namespace Validator

/-- **A value and its part along a branch are seen alike.** What the whole shows along the edge of
the branch is the value that the rules at the branch see, and where the old value has that part
too, the same goes for the old values. -/
structure Shared (node : σ) (new : Datum) (old : Option Datum) (b : Branch σ) : Prop where
  self : ∀ x, convert (some node) new = .ok x →
    ∃ y, convert (some b.node) b.value = .ok y ∧ x.Shows b.edge y
  oldSelf : ∀ o x o', old = some o → convert (some node) o = .ok x → o.along? b.edge = some o' →
    ∃ y, convert (some b.node) o' = .ok y ∧ x.Shows b.edge y

theorem shared_of_mem_branches {node : σ} (hk : Keyed node) {new : Datum} {old : Option Datum}
    (hn : new.IsJson) (hnw : new.WellKeyed) (ho : ∀ o, old = some o → o.IsJson ∧ o.WellKeyed)
    (hfit : Fits node new) {b : Branch σ} (hb : b ∈ branches node new) :
    Shared node new old b := by
  have hnode := nodeAlong?_of_mem_branches hk hn hb
  have halong := along?_of_mem_branches hnw hb
  constructor
  · intro x hx
    rw [← hnode]
    exact convert_along hn hnw hfit hx halong
  · intro o x o' hold hx halong'
    -- the old value is of the type of the new one, since they share an edge
    have hfit' : Fits node o := by
      rwa [Fits, container?_of_along? halong', ← container?_of_along? halong]
    obtain ⟨hj, hw⟩ := ho o hold
    rw [← hnode]
    exact convert_along hj hw hfit' hx halong'

/-- **The rules of a value and the rules of its parts see the same values,** under a document as
under the tree compiled from it. -/
theorem branches_shared {s : RawSchema} (hs : s.WellKeyed) {new : Document} (hn : new.wellKeyed)
    (old : Option Document) (ho : ∀ o ∈ old, o.wellKeyed)
    (hfit : type? s = none ∨ type? s = container? (ofDocument new)) :
    (∀ b ∈ branches s (ofDocument new),
      Shared s (ofDocument new) (old.map ofDocument) b) ∧
    ∀ b ∈ branches s.compiled (ofDocument new),
      Shared s.compiled (ofDocument new) (old.map ofDocument) b := by
  have hold : ∀ o, old.map ofDocument = some o → o.IsJson ∧ o.WellKeyed := fun o h => by
    obtain ⟨d, hd, rfl⟩ := Option.map_eq_some_iff.1 h
    exact ⟨⟨d, rfl⟩, wellKeyed_ofDocument (ho d hd)⟩
  have hcompiled : Fits s.compiled (ofDocument new) := by
    rw [Fits, RawSchema.mirror_compiled.type?]
    exact hfit
  exact ⟨fun b hb => shared_of_mem_branches hs.keyed ⟨new, rfl⟩ (wellKeyed_ofDocument hn) hold
      hfit hb,
    fun b hb => shared_of_mem_branches (RawSchema.mirror_compiled.keyed hs.keyed) ⟨new, rfl⟩
      (wellKeyed_ofDocument hn) hold hcompiled hb⟩

/-- A node with a property, a property that is declared without a node, and further properties. -/
def clockSchema : RawSchema where
  context := .plain
  members := [
    ("type", .text "object"),
    ("properties", .object [("start", .object [("format", .text "date-time")]),
      ("note", .bool true)]),
    ("additionalProperties", .object [("format", .text "duration")])]

/-- An object with properties of each kind, of which only the last is a duration to the node. -/
def clock : Document :=
  .object [("start", .text "2024-01-01T00:00:00Z"), ("note", .text "5s"), ("late", .text "5s")]

/-- What has been there before. -/
def oldClock : Document := .object [("late", .text "7s"), ("early", .text "9s")]

/-- The rules of a clock and those of its parts see the same start and the same delay. -/
theorem branches_shared_clock :
    clockSchema.WellKeyed ∧ clock.wellKeyed ∧ oldClock.wellKeyed ∧
      type? clockSchema = container? (ofDocument clock) ∧
      (branches clockSchema (ofDocument clock)).map Branch.edge =
        [.key (.text "start"), .key (.text "late")] ∧
      (∀ b ∈ branches clockSchema (ofDocument clock),
        Shared clockSchema (ofDocument clock) (some (ofDocument oldClock)) b) ∧
      ∀ b ∈ branches clockSchema.compiled (ofDocument clock),
        Shared clockSchema.compiled (ofDocument clock) (some (ofDocument oldClock)) b := by
  have hs : clockSchema.WellKeyed :=
    (by decide : (Document.object clockSchema.members).wellKeyed)
  have hn : clock.wellKeyed := by decide
  have ho : oldClock.wellKeyed := by decide
  have ht : type? clockSchema = container? (ofDocument clock) := rfl
  exact ⟨hs, hn, ho, ht, rfl,
    branches_shared hs hn (some oldClock) (fun o h => Option.some.inj h ▸ ho) (.inr ht)⟩

end Validator

end Admission
