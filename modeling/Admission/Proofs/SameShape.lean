import Admission.Proofs.SharedValue

/-!
# Values of one shape

A schema node has a say in texts and in nothing else: the value of JSON under a node has the shape
of its value on its own. Lists have the same length, maps the same keys in the same order, and what
is neither is the same, texts apart.

* `Value.SameBut`: values of one shape that differ at most in texts.
* `Bridge.Beside`, `Bridge.Puts.beside`: entries that are put beside each other stay so.
* `Bridge.sameBut_of_convert`: **a conversion changes texts only.**
-/

namespace Admission

/-! ### Texts apart -/

namespace Value

/-- The values of JSON without parts, texts apart. -/
def isAtom : Value → Bool
  | .null | .bool _ | .int _ _ | .uint _ | .double _ _ _ => true
  | _ => false

/-- **Values of one shape, which differ at most in texts.** Lists have the same length, maps have
the same keys in the same order, and all else that is not a text is the same. `R way s v` says that
the text `s` at a way may stand as `v`. -/
inductive SameBut (R : List Step → Text → Value → Prop) : List Step → Value → Value → Prop
  | atom {way x} (h : x.isAtom) : SameBut R way x x
  | text {way s v} (h : R way s v) : SameBut R way (.text .typed s) v
  | list {way} {xs ys : List Value} (hl : xs.length = ys.length)
      (h : ∀ i x y, xs[i]? = some x → ys[i]? = some y → SameBut R (way ++ [.index i]) x y) :
      SameBut R way (.list .typed xs) (.list .typed ys)
  | map {way} {es es' : List (Value × Value)} (ht : Bridge.TextKeys es)
      (hk : es.map Prod.fst = es'.map Prod.fst)
      (h : ∀ (i : Nat) name x y, es[i]? = some (Value.text .typed name, x) →
        es'[i]? = some (Value.text .typed name, y) → SameBut R (way ++ [.field name]) x y) :
      SameBut R way (.map .plain es) (.map .plain es')

end Value

namespace Bridge

open Datum SchemaNode

/-- The value of an integer is a number, of whichever type. -/
theorem isAtom_of_ofInt {n : Int} {x : Value} (h : ofInt n = .ok x) : x.isAtom := by
  rw [ofInt] at h
  split at h
  · next v hv =>
    obtain rfl := Except.ok.inj h
    rcases Option.or_eq_some_iff.1 hv with hv | ⟨-, hv⟩
    · obtain ⟨-, hv⟩ := Option.ite_none_right_eq_some.1 hv
      exact Option.some.inj hv ▸ rfl
    · obtain ⟨-, hv⟩ := Option.ite_none_right_eq_some.1 hv
      exact Option.some.inj hv ▸ rfl
  · split at h
    · obtain rfl := Except.ok.inj h
      rfl
    · cases h

/-! ### Entries beside each other -/

/-- **Entries beside each other** have one text for a key, and values that are related. -/
def Beside (Q : Text → Value → Value → Prop) :
    List (Value × Value) → List (Value × Value) → Prop :=
  List.Forall₂ fun e e' =>
    ∃ name, e.1 = .text .typed name ∧ e'.1 = .text .typed name ∧ Q name e.2 e'.2

namespace Beside

variable {Q : Text → Value → Value → Prop} {es es' : List (Value × Value)}

theorem textKeys (h : Beside Q es es') : TextKeys es := by
  induction h with
  | nil => simp [TextKeys]
  | cons he _ ih =>
    obtain ⟨name, hname, -⟩ := he
    exact List.forall_mem_cons.2 ⟨⟨name, hname⟩, ih⟩

theorem keys (h : Beside Q es es') : es.map Prod.fst = es'.map Prod.fst := by
  induction h with
  | nil => rfl
  | cons he _ ih =>
    obtain ⟨name, hname, hname', -⟩ := he
    rw [List.map_cons, List.map_cons, hname, hname', ih]

/-- Entries at one place are related. -/
theorem getElem? (h : Beside Q es es') {i : Nat} {name : Text} {x y : Value}
    (hx : es[i]? = some (.text .typed name, x)) (hy : es'[i]? = some (.text .typed name, y)) :
    Q name x y := by
  induction h generalizing i with
  | nil => cases hx
  | cons he _ ih =>
    cases i with
    | succ i => exact ih hx hy
    | zero =>
      obtain ⟨name', hname, -, hq⟩ := he
      obtain rfl := Option.some.inj hx
      obtain rfl := Option.some.inj hy
      cases hname
      exact hq

/-- **Entries stay beside each other** if related values are put under one key. -/
theorem put (h : Beside Q es es') {s : Text} {v v' : Value} (hq : Q s v v')
    {mid mid' : List (Value × Value)} (hput : putEntry (.text .typed s) v es = .ok mid)
    (hput' : putEntry (.text .typed s) v' es' = .ok mid') : Beside Q mid mid' := by
  induction h generalizing mid mid' with
  | nil =>
    obtain rfl := Except.ok.inj hput
    obtain rfl := Except.ok.inj hput'
    exact .cons ⟨s, rfl, rfl, hq⟩ .nil
  | @cons e e' rest rest' he hrest ih =>
    obtain ⟨k, w⟩ := e
    obtain ⟨k', w'⟩ := e'
    obtain ⟨t, rfl, rfl, hw⟩ := he
    rw [putEntry_text_cons] at hput hput'
    split at hput
    · -- the key is there, so the values are put in its place
      next hts =>
      subst hts
      rw [if_pos rfl] at hput'
      obtain rfl := Except.ok.inj hput
      obtain rfl := Except.ok.inj hput'
      exact .cons ⟨t, rfl, rfl, hq⟩ hrest
    · next hts =>
      rw [if_neg hts] at hput'
      obtain ⟨later, hlater, rfl⟩ := Except.map_eq_ok_iff.1 hput
      obtain ⟨later', hlater', rfl⟩ := Except.map_eq_ok_iff.1 hput'
      exact .cons ⟨t, rfl, rfl, hw⟩ (ih hlater hlater')

end Beside

/-- **What is put entry by entry, with values that are related, is beside each other.** -/
theorem Puts.beside {f g : Datum → Datum → Except Fault Value}
    {Q : Text → Value → Value → Prop} {entries : List (Datum × Datum)}
    {before before' after after' : List (Value × Value)} (h : Puts f before entries after)
    (h' : Puts g before' entries after') (hk : ∀ e ∈ entries, ∃ s, e.1 = .text s)
    (hq : ∀ s d x y, (.text s, d) ∈ entries → f (.text s) d = .ok x → g (.text s) d = .ok y →
      Q s x y) (hb : Beside Q before before') : Beside Q after after' := by
  induction h generalizing before' with
  | nil =>
    cases h'
    exact hb
  | cons hkey hv hput _ ih =>
    cases h' with
    | cons hkey' hv' hput' h' =>
      obtain ⟨⟨s, hs⟩, hrest⟩ := List.forall_mem_cons.1 hk
      dsimp only at hs
      subst hs
      obtain rfl := Except.ok.inj hkey
      obtain rfl := Except.ok.inj hkey'
      refine ih h' hrest (fun t d x y hd => hq t d x y (List.mem_cons_of_mem _ hd)) ?_
      exact hb.put (hq s _ _ _ List.mem_cons_self hv hv') hput hput'

/-! ### Conversions -/

variable {σ : Type} [SchemaNode σ]

/-- **A conversion changes texts only.** The nodes along ways are given by `node`, and `R` is what
it makes of a text. -/
theorem sameBut_of_convert {node : List Step → Option σ}
    {R : List Step → Text → Value → Prop}
    (hfield : ∀ way name,
      node (way ++ [.field name]) = (node way).bind (partNode? · (.key (.text name))))
    (hindex : ∀ way i, node (way ++ [.index i]) = (node way).bind (partNode? · (.item i)))
    (htext : ∀ way s, R way s (ofText ((node way).bind format?) s))
    {d : Datum} (hd : d.IsJson) {way : List Step} {x y : Value} (hx : plain d = .ok x)
    (hy : convert (node way) d = .ok y) : Value.SameBut R way x y := by
  induction d using Datum.byParts generalizing way x y with
  | list items ih =>
    rw [plain, plainItems_eq] at hx
    obtain ⟨xs, hxs, rfl⟩ := Except.map_eq_ok_iff.1 hx
    -- all items have one node, so that of the first stands for each
    rw [convert_list_eq _ _ 0] at hy
    obtain ⟨ys, hys, rfl⟩ := Except.map_eq_ok_iff.1 hy
    have hlength := (List.length_of_mapM_eq_ok hxs).trans (List.length_of_mapM_eq_ok hys).symm
    refine .list hlength fun i x y hxi hyi => ?_
    obtain ⟨d, hdi, hx⟩ := List.exists_of_mapM_eq_ok hxs hxi
    obtain ⟨d', hdi', hy⟩ := List.exists_of_mapM_eq_ok hys hyi
    obtain rfl := Option.some.inj (hdi.symm.trans hdi')
    have hmem := List.mem_of_getElem? hdi
    refine ih d hmem (hd.items d hmem) hx ?_
    rw [hindex]
    exact hy
  | map entries ih =>
    rw [plain] at hx
    obtain ⟨es, hes, rfl⟩ := Except.map_eq_ok_iff.1 hx
    obtain ⟨es', hes', rfl⟩ := convert_map_eq_ok_iff.1 hy
    -- both conversions put the same keys, in the order of the entries
    have hbeside : Beside (fun name => Value.SameBut R (way ++ [.field name])) es es' := by
      refine (plainEntries_eq_ok_iff.1 hes).beside hes' (fun e he => (hd.entries e he).1) ?_ .nil
      intro name d x y hmem hx hy
      rw [← hfield] at hy
      exact (ih _ hmem).2 (hd.entries _ hmem).2 hx hy
    exact .map hbeside.textKeys hbeside.keys fun i name x y => hbeside.getElem?
  | leaf d hleaf =>
    cases d with
    | text s =>
      obtain rfl := Except.ok.inj hx
      obtain rfl := Except.ok.inj hy
      exact .text (htext way s)
    | int n =>
      -- no node is asked about integers
      have hsame : x = y := Except.ok.inj (hx.symm.trans hy)
      subst hsame
      exact .atom (isAtom_of_ofInt hx)
    | null | bool | float =>
      obtain rfl := Except.ok.inj hx
      obtain rfl := Except.ok.inj hy
      exact .atom rfl
    | list | map => cases hleaf
    | bytes octets => exact absurd hd (not_isJson_bytes octets)
    | foreign thing => exact absurd hd (not_isJson_foreign thing)

end Bridge

end Admission
