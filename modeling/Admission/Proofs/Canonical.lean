import Admission.Command.Run
import Admission.Proofs.Json
import Admission.Proofs.ReadBack
import Admission.Text.Order

/-!
# Canonical texts

The canonical text of a document is that of the document with the keys of every object in order, so
it is read as this one. Two documents that differ in the order of members only have one document
with sorted keys, and so one text; and what has one text is read as one document.

Keys are compared by the code points of their characters.

* `Document.Ascending`, `Document.InKeyOrder`: members, and documents, with their keys in order.
* `Document.Rearranges`: a document with the members of its objects in another order.
* `Document.Rearranges.sortKeys_eq`, `Document.rearranges_sortKeys`: sorting keys rearranges
  members, and forgets in which order they were.
* `Document.canonical_eq_iff`: **two documents have one canonical text if they differ in the order
  of members only.**
* `Command.tells_report`: **a report in one text tells its violations.**
* `Document.canonical_faithful`: all that is said about canonical texts.
-/

namespace Admission

namespace Document

/-! ### Members in the order of their keys -/

/-- Members whose keys ascend, and so are there once each. -/
def Ascending (ms : List (Text × Document)) : Prop := ms.Pairwise fun m n => m.1 < n.1

theorem insertSorted_perm (m : Text × Document) (ms : List (Text × Document)) :
    (insertSorted m ms).Perm (m :: ms) := by
  induction ms with
  | nil => exact .refl _
  | cons n ms ih =>
    rw [insertSorted]
    split
    · exact .refl _
    · exact (ih.cons n).trans (.swap m n ms)

/-- **A member of a new key is put into its place.** -/
theorem ascending_insertSorted {m : Text × Document} {ms : List (Text × Document)}
    (h : Ascending ms) (hnew : m.1 ∉ ms.map Prod.fst) : Ascending (insertSorted m ms) := by
  induction ms with
  | nil => exact List.pairwise_singleton _ _
  | cons n ms ih =>
    obtain ⟨hn, hms⟩ := List.pairwise_cons.1 h
    rw [List.map_cons, List.mem_cons, not_or] at hnew
    rw [insertSorted]
    split
    · next hlt =>
      refine List.pairwise_cons.2 ⟨fun x hx => ?_, h⟩
      rcases List.mem_cons.1 hx with rfl | hx
      · exact hlt
      · exact lt_trans hlt (hn x hx)
    · next hnot =>
      refine List.pairwise_cons.2 ⟨fun x hx => ?_, ih hms hnew.2⟩
      rcases List.mem_cons.1 ((insertSorted_perm m ms).subset hx) with rfl | hx
      · exact lt_of_le_of_ne (not_lt.1 hnot) (Ne.symm hnew.1)
      · exact hn x hx

/-- A member that is first in the order is put in front. -/
theorem insertSorted_of_ascending {m : Text × Document} {ms : List (Text × Document)}
    (h : Ascending (m :: ms)) : insertSorted m ms = m :: ms := by
  cases ms with
  | nil => rfl
  | cons n ms => rw [insertSorted, if_pos ((List.pairwise_cons.1 h).1 n List.mem_cons_self)]

/-- Ascending members are determined by what they are, whatever order they were in. -/
theorem Ascending.eq_of_perm {ms ms' : List (Text × Document)} (h : Ascending ms)
    (h' : Ascending ms') (hperm : ms.Perm ms') : ms = ms' :=
  List.Perm.eq_of_pairwise (fun _ _ _ _ hlt hgt => absurd hgt (lt_asymm hlt)) h h' hperm

theorem sortItems_eq (xs : List Document) : sortItems xs = xs.map sortKeys := by
  induction xs with
  | nil => rfl
  | cons x xs ih => rw [sortItems, ih, List.map_cons]

/-- The members of a sorted object: with sorted values, put into their places one by one. -/
theorem sortMembers_eq (ms : List (Text × Document)) :
    sortMembers ms = (ms.map (Prod.map id sortKeys)).foldr insertSorted [] := by
  induction ms with
  | nil => rfl
  | cons m ms ih => rw [sortMembers, ih, List.map_cons, List.foldr_cons]; rfl

theorem foldr_insertSorted_perm (ms : List (Text × Document)) :
    (ms.foldr insertSorted []).Perm ms := by
  induction ms with
  | nil => exact .refl _
  | cons m ms ih => exact (insertSorted_perm m _).trans (ih.cons m)

theorem ascending_foldr {ms : List (Text × Document)} (h : (ms.map Prod.fst).Nodup) :
    Ascending (ms.foldr insertSorted []) := by
  induction ms with
  | nil => exact List.Pairwise.nil
  | cons m ms ih =>
    obtain ⟨hnew, hms⟩ := List.nodup_cons.1 h
    refine ascending_insertSorted (ih hms) fun hmem => hnew ?_
    exact ((foldr_insertSorted_perm ms).map Prod.fst).subset hmem

theorem foldr_of_ascending {ms : List (Text × Document)} (h : Ascending ms) :
    ms.foldr insertSorted [] = ms := by
  induction ms with
  | nil => rfl
  | cons m ms ih => rw [List.foldr_cons, ih (List.pairwise_cons.1 h).2, insertSorted_of_ascending h]

/-- The keys of sorted values. -/
theorem map_fst_sorted (ms : List (Text × Document)) :
    (ms.map (Prod.map id sortKeys)).map Prod.fst = ms.map Prod.fst := by
  rw [List.map_map]
  rfl

/-! ### Keys in order at every depth -/

/-- **The keys of every object ascend.** -/
inductive InKeyOrder : Document → Prop
  | null : InKeyOrder .null
  | bool (b : Bool) : InKeyOrder (.bool b)
  | int (n : Int) : InKeyOrder (.int n)
  | float (x : Float) : InKeyOrder (.float x)
  | text (s : Text) : InKeyOrder (.text s)
  | list {items : List Document} (each : ∀ d ∈ items, InKeyOrder d) : InKeyOrder (.list items)
  | object {members : List (Text × Document)} (keys : Ascending members)
      (each : ∀ m ∈ members, InKeyOrder m.2) : InKeyOrder (.object members)

/-- **Sorting puts the keys of every object in order.** -/
theorem Exact.inKeyOrder {d : Document} (h : Exact d) : d.sortKeys.InKeyOrder := by
  induction h with
  | null => exact .null
  | bool b => exact .bool b
  | int _ => exact .int _
  | text s => exact .text s
  | @list items _ ih =>
    rw [sortKeys, sortItems_eq]
    refine .list fun d hd => ?_
    obtain ⟨x, hx, rfl⟩ := List.mem_map.1 hd
    exact ih x hx
  | @object members keys _ ih =>
    rw [sortKeys, sortMembers_eq]
    rw [← map_fst_sorted] at keys
    refine .object (ascending_foldr keys) fun m hm => ?_
    obtain ⟨x, hx, rfl⟩ := List.mem_map.1 ((foldr_insertSorted_perm _).subset hm)
    exact ih x hx

/-- **Sorting changes nothing where the keys are in order.** -/
theorem InKeyOrder.sortKeys_eq {d : Document} (h : InKeyOrder d) : d.sortKeys = d := by
  induction h with
  | null | bool | int | float | text => rfl
  | @list items _ ih =>
    have hitems : items.map sortKeys = items := List.map_congr_left ih |>.trans (List.map_id _)
    rw [sortKeys, sortItems_eq, hitems]
  | @object members keys _ ih =>
    have hmembers : members.map (Prod.map id sortKeys) = members := by
      refine (List.map_congr_left fun m hm => ?_).trans (List.map_id _)
      exact Prod.ext rfl (ih m hm)
    rw [sortKeys, sortMembers_eq, hmembers, foldr_of_ascending keys]

/-! ### Members in another order -/

/-- **The second document is the first one with the members of any of its objects in another
order.** -/
inductive Rearranges : Document → Document → Prop
  | refl (d) : Rearranges d d
  | trans {d d' d''} (h : Rearranges d d') (h' : Rearranges d' d'') : Rearranges d d''
  /-- The members of the document itself are in another order. -/
  | members {ms ms'} (h : ms'.Perm ms) : Rearranges (.object ms) (.object ms')
  /-- The value of a member is rearranged. -/
  | value {before after key d d'} (h : Rearranges d d') :
      Rearranges (.object (before ++ (key, d) :: after)) (.object (before ++ (key, d') :: after))
  /-- An item is rearranged, in its place. -/
  | item {before after d d'} (h : Rearranges d d') :
      Rearranges (.list (before ++ d :: after)) (.list (before ++ d' :: after))

namespace Rearranges

variable {d d' : Document}

theorem symm (h : Rearranges d d') : Rearranges d' d := by
  induction h with
  | refl d => exact .refl d
  | trans _ _ ih ih' => exact ih'.trans ih
  | members h => exact .members h.symm
  | value _ ih => exact .value ih
  | item _ ih => exact .item ih

/-- Rearranging keeps what can be read back. -/
theorem exact (h : Rearranges d d') : Exact d → Exact d' := by
  induction h with
  | refl d => exact id
  | trans _ _ ih ih' => exact fun hd => ih' (ih hd)
  | members h =>
    intro hd
    cases hd with
    | object keys each =>
      exact .object ((h.map Prod.fst).nodup_iff.2 keys) fun m hm => each m (h.subset hm)
  | value _ ih =>
    intro hd
    cases hd with
    | object keys each =>
      rw [List.forall_mem_append, List.forall_mem_cons] at each
      refine .object (by simpa using keys) ?_
      exact List.forall_mem_append.2 ⟨each.1, List.forall_mem_cons.2 ⟨ih each.2.1, each.2.2⟩⟩
  | item _ ih =>
    intro hd
    cases hd with
    | list each =>
      rw [List.forall_mem_append, List.forall_mem_cons] at each
      refine .list ?_
      exact List.forall_mem_append.2 ⟨each.1, List.forall_mem_cons.2 ⟨ih each.2.1, each.2.2⟩⟩

/-- **Documents that differ in the order of members only have one sorted form.** -/
theorem sortKeys_eq (h : Rearranges d d') : Exact d → d'.sortKeys = d.sortKeys := by
  induction h with
  | refl d => exact fun _ => rfl
  | trans h _ ih ih' => exact fun hd => (ih' (h.exact hd)).trans (ih hd)
  | @members ms ms' h =>
    intro hd
    cases hd with
    | object keys each =>
      -- no key stands twice, so there is one row in key order with these members
      have hmap : (ms'.map (Prod.map id sortKeys)).Perm (ms.map (Prod.map id sortKeys)) := h.map _
      rw [← map_fst_sorted] at keys
      have hsorted := ascending_foldr keys
      have hsorted' := ascending_foldr ((hmap.map Prod.fst).nodup_iff.2 keys)
      have hperm := (foldr_insertSorted_perm _).trans (hmap.trans (foldr_insertSorted_perm _).symm)
      rw [sortKeys, sortKeys, sortMembers_eq, sortMembers_eq, hsorted'.eq_of_perm hsorted hperm]
  | value _ ih =>
    intro hd
    cases hd with
    | object keys each =>
      have hvalue := ih (each _ (List.mem_append_right _ List.mem_cons_self))
      simp only [sortKeys, sortMembers_eq, List.map_append, List.map_cons, Prod.map_apply, hvalue]
  | item _ ih =>
    intro hd
    cases hd with
    | list each =>
      have hitem := ih (each _ (List.mem_append_right _ List.mem_cons_self))
      simp only [sortKeys, sortItems_eq, List.map_append, List.map_cons, hitem]

/-- A list with each of its items rearranged, behind items that stay. -/
theorem items {f : Document → Document} {xs : List Document} (h : ∀ d ∈ xs, Rearranges d (f d)) :
    ∀ before, Rearranges (.list (before ++ xs)) (.list (before ++ xs.map f)) := by
  induction xs with
  | nil => exact fun before => .refl _
  | cons x xs ih =>
    intro before
    have hx : Rearranges (.list (before ++ x :: xs)) (.list (before ++ f x :: xs)) :=
      .item (h x List.mem_cons_self)
    have hxs := ih (fun d hd => h d (List.mem_cons_of_mem x hd)) (before ++ [f x])
    rw [List.append_assoc, List.append_assoc] at hxs
    exact hx.trans hxs

/-- An object with the value of each of its members rearranged, behind members that stay. -/
theorem values {f : Document → Document} {ms : List (Text × Document)}
    (h : ∀ m ∈ ms, Rearranges m.2 (f m.2)) :
    ∀ before, Rearranges (.object (before ++ ms)) (.object (before ++ ms.map (Prod.map id f))) := by
  induction ms with
  | nil => exact fun before => .refl _
  | cons m ms ih =>
    intro before
    have hm : Rearranges (.object (before ++ m :: ms)) (.object (before ++ (m.1, f m.2) :: ms)) :=
      .value (h m List.mem_cons_self)
    have hms := ih (fun n hn => h n (List.mem_cons_of_mem m hn)) (before ++ [(m.1, f m.2)])
    rw [List.append_assoc, List.append_assoc] at hms
    exact hm.trans hms

end Rearranges

/-- **Sorting keys rearranges members.** -/
theorem rearranges_sortKeys (d : Document) : Rearranges d d.sortKeys := by
  induction d using Document.byParts with
  | list items ih =>
    rw [sortKeys, sortItems_eq]
    exact Rearranges.items ih []
  | object members ih =>
    rw [sortKeys, sortMembers_eq]
    exact (Rearranges.values ih []).trans (.members (foldr_insertSorted_perm _))
  | null | bool | int | float | text => exact .refl _

/-! ### Canonical texts -/

/-- **The canonical text of a document** is read as the document with sorted keys. -/
theorem Exact.read_canonical {d : Document} (h : Exact d) : read d.canonical = .ok d.sortKeys := by
  have hsorted : Exact d.sortKeys := (rearranges_sortKeys d).exact h
  rw [canonical, hsorted.read_write]

/-- **Two documents have one canonical text if they differ in the order of members only,** and
otherwise they have two. -/
theorem canonical_eq_iff {d d' : Document} (h : Exact d) (h' : Exact d') :
    d.canonical = d'.canonical ↔ Rearranges d d' := by
  constructor
  · intro heq
    -- one text is read as one document, which both of them are rearranged to
    have hread := h.read_canonical
    rw [heq, h'.read_canonical] at hread
    have hsorted : d'.sortKeys = d.sortKeys := Except.ok.inj hread
    have hd' := (rearranges_sortKeys d').symm
    rw [hsorted] at hd'
    exact (rearranges_sortKeys d).trans hd'
  · intro hr
    rw [canonical, canonical, hr.sortKeys_eq h]

/-- **What it means that the canonical text of a document is one.** -/
structure Canonical (d : Document) : Prop where
  /-- It is read as the document with sorted keys. -/
  reads : read d.canonical = .ok d.sortKeys
  /-- That one has the same members in every object. -/
  rearranges : Rearranges d d.sortKeys
  /-- The keys of every object ascend in it. -/
  inKeyOrder : d.sortKeys.InKeyOrder
  /-- What the text is read as has the same canonical text. -/
  again : ∀ e, read d.canonical = .ok e → e.canonical = d.canonical
  /-- The text has no control character, so it is one line. -/
  printed : AllPrinted d.canonical.toList

theorem canonical_of_exact {d : Document} (h : Exact d) : Canonical d where
  reads := h.read_canonical
  rearranges := rearranges_sortKeys d
  inKeyOrder := h.inKeyOrder
  again e he := by
    rw [h.read_canonical] at he
    cases he
    rw [Document.canonical, h.inKeyOrder.sortKeys_eq, Document.canonical]
  printed := by
    have hsorted : Exact d.sortKeys := (rearranges_sortKeys d).exact h
    rw [Document.canonical, write, Text.toList_ofList]
    exact hsorted.allPrinted

end Document

/-! ### Reports -/

namespace Command

open Document

/-- The violation that a document tells. -/
def violationOf? (d : Document) : Option Violation := do
  let fieldPath ← (← d.member? "field_path").text?
  let message ← (← d.member? "message").text?
  let reason ← (match ← d.member? "reason" with
    | .null => some none
    | .text s => some (some s)
    | _ => none)
  let rule ← (← d.member? "rule").text?
  return { fieldPath, message, reason, rule }

theorem violationOf?_violationDocument (v : Violation) :
    violationOf? (violationDocument v) = some v := by
  obtain ⟨path, message, reason, rule⟩ := v
  cases reason <;> rfl

/-- The document of a violation is read back as it is, and its keys are in order. -/
theorem exact_violationDocument (v : Violation) :
    Exact (violationDocument v) ∧ (violationDocument v).InKeyOrder := by
  let keys : List Text := ["field_path", "message", "reason", "rule"]
  have hkeys : keys.Pairwise (· < ·) := by decide
  have hreason : Exact ((v.reason.map Document.text).getD .null) ∧
      InKeyOrder ((v.reason.map Document.text).getD .null) := by
    cases v.reason with
    | none => exact ⟨.null, .null⟩
    | some s => exact ⟨.text s, .text s⟩
  have heach : ∀ m ∈ [((.plain "field_path" : Text), Document.text v.fieldPath),
      ("message", .text v.message), ("reason", (v.reason.map Document.text).getD .null),
      ("rule", .text v.rule)], Exact m.2 ∧ m.2.InKeyOrder := by
    simp only [List.forall_mem_cons]
    exact ⟨⟨.text _, .text _⟩, ⟨.text _, .text _⟩, hreason, ⟨.text _, .text _⟩,
      fun m hm => absurd hm List.not_mem_nil⟩
  refine ⟨.object ?_ fun m hm => (heach m hm).1, .object ?_ fun m hm => (heach m hm).2⟩
  · show keys.Nodup
    decide
  · exact List.pairwise_map.1 hkeys

/-- **Lines that tell violations:** one line, without a control character, that is read as a list of
documents, each of which tells a violation. -/
def Tells (lines : List Text) (vs : List Violation) : Prop :=
  ∃ line docs, lines = [line] ∧ AllPrinted line.toList ∧
    Document.read line = .ok (.list docs) ∧ docs.mapM violationOf? = some vs

theorem mapM_violationOf? (vs : List Violation) :
    (vs.map violationDocument).mapM violationOf? = some vs := by
  induction vs with
  | nil => rfl
  | cons v vs ih =>
    rw [List.map_cons, List.mapM_cons, violationOf?_violationDocument, ih]
    rfl

/-- **A report in one text tells its violations,** in their order. -/
theorem tells_report {o : Options} (ho : o.json) (vs : List Violation) :
    Tells (report o vs) vs := by
  have hdocs : ∀ d ∈ vs.map violationDocument, Exact d ∧ d.InKeyOrder :=
    List.forall_mem_map.2 fun v _ => exact_violationDocument v
  have hexact : Exact (.list (vs.map violationDocument)) := .list fun d hd => (hdocs d hd).1
  have horder : InKeyOrder (.list (vs.map violationDocument)) := .list fun d hd => (hdocs d hd).2
  have hcanonical := canonical_of_exact hexact
  refine ⟨_, vs.map violationDocument, if_pos ho, hcanonical.printed, ?_, mapM_violationOf? vs⟩
  rw [hcanonical.reads, horder.sortKeys_eq]

end Command

/-! ### The theorem -/

namespace Document

open Command

/-- **Canonical texts are canonical and can be read,** for documents without floats: a text is read
as its document with the members in the order of their keys, two documents have one text if they
differ in the order of members only, and a report in one text tells its violations. -/
theorem canonical_faithful {d d' : Document} (hd : Exact d) (hd' : Exact d') {o : Options}
    (ho : o.json) (vs : List Violation) :
    Canonical d ∧ (d.canonical = d'.canonical ↔ Rearranges d d') ∧ Tells (report o vs) vs :=
  ⟨canonical_of_exact hd, canonical_eq_iff hd hd', tells_report ho vs⟩

/-- A document with keys out of order at two depths, and with characters that are escaped. -/
def tangled : Document :=
  .object [("b", .list [.int (-5), .text "\"é\n😀\\", .null]),
    ("a", .object [("é", .int 0), ("z", .bool true)])]

/-- The same one with its members in another order. -/
def retangled : Document :=
  .object [("a", .object [("z", .bool true), ("é", .int 0)]),
    ("b", .list [.int (-5), .text "\"é\n😀\\", .null])]

theorem exact_tangled : Exact tangled := by
  have hitems : Exact (.list [.int (-5), .text "\"é\n😀\\", .null]) := by
    refine .list ?_
    simp only [List.forall_mem_cons]
    exact ⟨.int (by decide), .text _, .null, fun m hm => absurd hm List.not_mem_nil⟩
  have hmembers : Exact (.object [("é", .int 0), ("z", .bool true)]) := by
    refine .object (by decide) ?_
    simp only [List.forall_mem_cons]
    exact ⟨.int (by decide), .bool true, fun m hm => absurd hm List.not_mem_nil⟩
  refine .object (by decide) ?_
  simp only [List.forall_mem_cons]
  exact ⟨hitems, hmembers, fun m hm => absurd hm List.not_mem_nil⟩

theorem rearranges_tangled : Rearranges tangled retangled := by
  have hinner : Rearranges (.object [("é", .int 0), ("z", .bool true)])
      (.object [("z", .bool true), ("é", .int 0)]) := .members (.swap _ _ _)
  have houter := @Rearranges.value [("b", .list [.int (-5), .text "\"é\n😀\\", .null])] [] "a" _ _
    hinner
  exact houter.trans (.members (.swap _ _ _))

/-- Options of a validation that is reported in one text. -/
def textOptions : Options where
  schema := "schema"
  object := "object"
  json := true

/-- Violations with a line break in a message, and with a reason and without one. -/
def twoViolations : List Violation :=
  [⟨"self.a", "first\nline", none, "r"⟩, ⟨"self", "second", some "Invalid", "q"⟩]

/-- Both documents have one text, and a report of two violations tells them. -/
theorem canonical_faithful_tangled :
    Canonical tangled ∧ tangled.canonical = retangled.canonical ∧
      tangled.canonical = "\x7b\"a\":\x7b\"z\":true,\"é\":0\x7d," ++
        "\"b\":[-5,\"\\\"é\\n😀\\\\\",null]\x7d" ∧
      Tells (report textOptions twoViolations) twoViolations := by
  have hretangled : Exact retangled := rearranges_tangled.exact exact_tangled
  have ho : textOptions.json = true := rfl
  obtain ⟨hcanonical, hiff, htells⟩ := canonical_faithful exact_tangled hretangled ho twoViolations
  exact ⟨hcanonical, hiff.2 rearranges_tangled, by decide +kernel, htells⟩

end Document

end Admission
