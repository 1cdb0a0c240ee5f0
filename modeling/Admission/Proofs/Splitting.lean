import Admission.Library.Call
import Admission.Proofs.Gather
import Admission.Proofs.Occurrence

/-!
# Texts split and joined

A text is split where its separator stands leftmost, then where it stands leftmost in the rest, and
so on until it does not occur any more or a limit on the number of parts is reached. Joined with the
separator, the parts are the text again. Between two characters stands the empty separator, so under
it the parts are single characters.

* `Text.intercalate_cut`: nothing is lost by cutting.
* `Text.firstAt_of_mem_cut`, `Text.not_occursAt_last_cut`: each cut is made at the first separator,
  and the last part has none.
* `Library.Limit`: the arguments that stand for a limit.
* `Library.split_text`, `Library.split_empty`: what is split off under a separator, and under the
  empty one.
* `Library.IsSplit`: where a text is split.
* `Library.join_split`: **splitting cuts at the leftmost separators, and joining undoes it.**
-/

namespace Admission

/-! ### Cutting lists -/

namespace Text

variable {α : Type} [BEq α] {sep s p : List α} {n : Nat}

theorem cut_ne_nil (sep : List α) (n : Nat) (s : List α) : cut sep n s ≠ [] := by
  cases n with
  | zero => exact List.cons_ne_nil _ _
  | succ n =>
    rw [cut]
    split <;> exact List.cons_ne_nil _ _

/-- Each cut makes one part more. -/
theorem length_cut_le (sep : List α) (n : Nat) (s : List α) : (cut sep n s).length ≤ n + 1 := by
  fun_induction cut sep n s with
  | case1 s => exact Nat.le_refl 1
  | case2 n s h => exact Nat.le_add_left 1 (n + 1)
  | case3 n s i h ih => exact Nat.succ_le_succ ih

variable [LawfulBEq α]

/-- **Nothing is lost by cutting:** with the separators between them, the parts are the whole. -/
theorem intercalate_cut (sep : List α) (n : Nat) (s : List α) :
    sep.intercalate (cut sep n s) = s := by
  fun_induction cut sep n s with
  | case1 s => exact List.intercalate_singleton
  | case2 n s h => exact List.intercalate_singleton
  | case3 n s i h ih =>
    rw [List.intercalate_cons_of_ne_nil (cut_ne_nil _ _ _), ih]
    exact (firstAt_of_firstIndex? h).occurs.split.symm

/-- **Every part but the last one ends at the first separator:** no separator begins earlier in the
part and the separator behind it. -/
theorem firstAt_of_mem_cut (h : p ∈ (cut sep n s).dropLast) : FirstAt sep (p ++ sep) p.length := by
  fun_induction cut sep n s with
  | case1 s => cases h
  | case2 n s hs => cases h
  | case3 n s i hi ih =>
    rw [List.dropLast_cons_of_ne_nil (cut_ne_nil _ _ _)] at h
    rcases List.mem_cons.1 h with rfl | h
    · exact (firstAt_of_firstIndex? hi).upTo
    · exact ih h

/-- **The last part has no separator,** unless all cuts were used up. -/
theorem not_occursAt_last_cut (hn : (cut sep n s).length ≠ n + 1)
    (h : p ∈ (cut sep n s).getLast?) (i : Nat) : ¬ OccursAt sep p i := by
  fun_induction cut sep n s with
  | case1 s => exact absurd rfl hn
  | case2 n s hs =>
    obtain rfl : s = p := Option.some.inj h
    exact firstIndex?_eq_none_iff.1 hs i
  | case3 n s j hj ih =>
    rw [List.getLast?_cons_of_ne_nil (cut_ne_nil _ _ _)] at h
    exact ih (fun hl => hn (congrArg Nat.succ hl)) h

/-- Under as many cuts as there are elements, the last part has no separator. -/
theorem not_occursAt_last_cut_of_length_le (hsep : sep ≠ []) (hn : s.length ≤ n)
    (h : p ∈ (cut sep n s).getLast?) (i : Nat) : ¬ OccursAt sep p i := by
  have hpos : 0 < sep.length := List.length_pos_iff.2 hsep
  fun_induction cut sep n s with
  | case1 s =>
    obtain rfl : s = p := Option.some.inj h
    intro hi
    have := hi.add_length_le
    omega
  | case2 n s hs =>
    obtain rfl : s = p := Option.some.inj h
    exact firstIndex?_eq_none_iff.1 hs i
  | case3 n s j hj ih =>
    rw [List.getLast?_cons_of_ne_nil (cut_ne_nil _ _ _)] at h
    refine ih ?_ h
    rw [List.length_drop]
    omega

end Text

namespace Library

open Text

variable {o o' : Origin} {s sep : Text} {n : Int}

/-! ### Limits -/

/-- **The arguments at the end of a call that stand for a limit.** Where there are none, the limit
is negative. -/
inductive Limit : List Value → Int → Prop
  | none : Limit [] (-1)
  | int {n : Int} (least : Value.leastInt ≤ n) (greatest : n ≤ Value.greatestInt) :
      Limit [.int .typed n] n

theorem Limit.le_greatest {limit : List Value} (h : Limit limit n) : n ≤ Value.greatestInt := by
  cases h with
  | none => decide
  | int _ greatest => exact greatest

/-- A call without a limit is one with the limit that stands for none. -/
theorem Limit.apply_split {limit : List Value} (h : Limit limit n) (text separator : Value) :
    apply .split (text :: separator :: limit) = split text separator (.int .typed n) := by
  cases h <;> rfl

/-- A limit that fits 64 bits is not beyond every count. -/
theorem times_eq (hmax : n ≤ Value.greatestInt) (any : Nat) :
    times n any = .ok (if n < 0 then any else n.toNat) := by
  have hcount : ¬ n > greatestCount := by
    simp only [Value.greatestInt] at hmax
    simp only [greatestCount]
    omega
  rw [times, if_neg hcount]
  by_cases hneg : n < 0
  · rw [if_pos hneg, if_pos hneg]
  · rw [if_neg hneg, if_neg hneg]

/-- So many cuts a limit allows: one less than it has parts, or any number of them. -/
theorem cuts_eq (hmax : n ≤ Value.greatestInt) (any : Nat) :
    cuts n any = .ok (if 0 < n then (n - 1).toNat else any) := by
  rw [cuts]
  by_cases hpos : 0 < n
  · have hnneg : ¬ n - 1 < 0 := by omega
    rw [if_pos hpos, if_pos hpos, times_eq (by omega), if_neg hnneg]
  · rw [if_neg hpos, if_neg hpos, times_eq (by decide), if_pos (by decide)]

/-! ### What is split off -/

/-- A list of texts. -/
def listOf (texts : List Text) : Value := .list .typed (texts.map .ofString)

/-- The parts of a row under a limit are a list of texts. -/
theorem split_of_parts (hn : n ≠ 0) {text separator : Value} {texts : List (Origin × Text)}
    (h : parts text separator n = .ok (texts.map fun t => .text t.1 t.2)) :
    split text separator (.int .typed n) = .ok (listOf (texts.map Prod.snd)) := by
  have htexts : (texts.map fun t => Value.text t.1 t.2).mapM textOf =
      .ok ((texts.map Prod.snd).map Value.ofString) := by
    rw [List.mapM_map, List.map_map]
    exact List.mapM_eq_ok fun t _ => rfl
  have hint : requireInt ⟨.split, .limit⟩ (.int .typed n) = .ok n := rfl
  simp only [split, hint, h, htexts, if_neg hn, bind, Except.bind, pure, Except.pure, listOf]

/-- **Under a separator** a text is cut as often as the limit allows. -/
theorem split_text (o o' : Origin) (s : Text) (hsep : sep ≠ "") (hn : n ≠ 0)
    (hmax : n ≤ Value.greatestInt) :
    split (.text o s) (.text o' sep) (.int .typed n) =
      .ok (listOf ((cut sep.toList (if 0 < n then (n - 1).toNat else s.length) s.toList).map
        Text.ofList)) := by
  set rows := cut sep.toList (if 0 < n then (n - 1).toNat else s.length) s.toList with hrows
  have hempty : ¬ sep.isEmpty := by simpa using hsep
  have hparts : parts (.text o s) (.text o' sep) n =
      .ok ((rows.map fun p => (o', Text.ofList p)).map fun t => .text t.1 t.2) := by
    simp only [parts, if_neg hempty, cuts_eq hmax, bind, Except.bind, pure, Except.pure,
      List.map_map, ← hrows]
    rfl
  rw [split_of_parts hn hparts, List.map_map]
  rfl

/-- Single characters, of which the last ones are one part where a positive limit asks for fewer
parts. -/
def characterRows (n : Int) (cs : List Point) : List (List Point) :=
  if 0 < n ∧ n < cs.length then
    (cs.take (n - 1).toNat).map ([·]) ++ [cs.drop (n - 1).toNat]
  else cs.map ([·])

/-- Joined, the characters of a row are the row. -/
theorem join_characters (cs : List Point) :
    Text.join (cs.map fun c => Text.ofList [c]) = Text.ofList cs := by
  rw [← Text.toList_inj, Text.toList_join, List.flatMap_map]
  simp

/-- The characters of a text, of which the last ones are joined under a limit. -/
theorem looseParts_characters (n : Int) (s : Text) :
    looseParts (Value.characters s) n =
      .ok ((characterRows n s.toList).map fun p => .text .bare (Text.ofList p)) := by
  have hlength : (Value.characters s).length = s.toList.length := List.length_map _
  have hrest : ((Value.characters s).drop (n - 1).toNat).mapM contentsOf =
      .ok ((s.toList.drop (n - 1).toNat).map fun c => Text.ofList [c]) := by
    rw [Value.characters, ← List.map_drop, List.mapM_map]
    exact List.mapM_eq_ok fun c _ => rfl
  have htake : (Value.characters s).take (n - 1).toNat =
      (s.toList.take (n - 1).toNat).map fun c => .text .bare (Text.ofList [c]) := List.map_take.symm
  rw [looseParts, characterRows, hlength]
  by_cases h : 0 < n ∧ n < s.toList.length
  · rw [if_pos h, if_pos h]
    simp only [hrest, htake, join_characters, bind, Except.bind, pure, Except.pure,
      List.map_append, List.map_map, List.map_cons, List.map_nil]
    rfl
  · rw [if_neg h, if_neg h, List.map_map]
    rfl

/-- **Under the empty separator** a text falls into its characters. -/
theorem split_empty (o o' : Origin) (s : Text) (hn : n ≠ 0) :
    split (.text o s) (.text o' "") (.int .typed n) =
      .ok (listOf ((characterRows n s.toList).map Text.ofList)) := by
  have hparts : parts (.text o s) (.text o' "") n =
      .ok (((characterRows n s.toList).map fun p => (Origin.bare, Text.ofList p)).map
        fun t => .text t.1 t.2) := by
    rw [List.map_map]
    exact looseParts_characters n s
  rw [split_of_parts hn hparts, List.map_map]
  rfl

/-! ### Joining -/

theorem textsOf_ofString (texts : List Text) : textsOf (texts.map .ofString) = .ok texts := by
  induction texts with
  | nil => rfl
  | cons t texts ih =>
    rw [List.map_cons, Value.ofString, textsOf, ih]
    rfl

/-- **Texts are joined** with the separator between them. -/
theorem apply_join (texts : List Text) (o : Origin) (sep : Text) :
    apply .join [listOf texts, .text o sep] = .ok (.ofString (sep.intercalate texts)) := by
  change join (listOf texts) (.text o sep) = _
  rw [join, listOf]
  change (do let texts ← textsOf (texts.map .ofString); _) = _
  rw [textsOf_ofString]
  rfl

/-! ### Where a text is split -/

/-- **What it means to split a text** at its leftmost separators, under a limit on the number of
parts that counts if it is positive. -/
structure IsSplit (s sep : Text) (n : Int) (parts : List Text) : Prop where
  /-- With the separators between them the parts are the text. -/
  whole : sep.intercalate parts = s
  atMost : 0 < n → parts.length ≤ n
  nonempty : sep ≠ "" → parts ≠ []
  /-- In a part that is not the last one and the separator behind it, no separator begins before
  that one. -/
  leftmost : sep ≠ "" → ∀ p ∈ parts.dropLast, FirstAt sep.toList (p ++ sep).toList p.length
  /-- No separator is left in the last part, unless the limit is reached. -/
  last : sep ≠ "" → ¬ (0 < n ∧ parts.length = n) →
    ∀ p ∈ parts.getLast?, ∀ i, ¬ OccursAt sep.toList p.toList i
  /-- The empty separator stands between any two characters. -/
  single : sep = "" → ∀ p ∈ parts.dropLast, p.length = 1
  lastSingle : sep = "" → ¬ (0 < n ∧ parts.length = n) → ∀ p ∈ parts.getLast?, p.length = 1
  empty : sep = "" → s = "" → parts = []

theorem intercalate_ofList (sep : Text) (rows : List (List Point)) :
    sep.intercalate (rows.map Text.ofList) = Text.ofList (sep.toList.intercalate rows) := by
  rw [← Text.toList_inj, Text.toList_intercalate, List.map_map]
  simp [Function.comp_def]

/-- Cutting as often as a limit allows splits a text. -/
theorem isSplit_cut (n : Int) (s : Text) (hsep : sep ≠ "") :
    IsSplit s sep n ((cut sep.toList (if 0 < n then (n - 1).toNat else s.length) s.toList).map
      Text.ofList) := by
  have hne : sep.toList ≠ [] := by simpa using hsep
  exact {
    whole := by rw [intercalate_ofList, intercalate_cut, Text.ofList_toList]
    atMost := fun hpos => by
      have hle := length_cut_le sep.toList (n - 1).toNat s.toList
      rw [if_pos hpos, List.length_map]
      omega
    nonempty := fun _ => by
      rw [Ne, List.map_eq_nil_iff]
      exact cut_ne_nil _ _ _
    leftmost := fun _ p hp => by
      rw [← List.map_dropLast] at hp
      obtain ⟨row, hrow, rfl⟩ := List.mem_map.1 hp
      have hfirst := firstAt_of_mem_cut hrow
      simpa using hfirst
    last := fun _ hlimit p hp i => by
      rw [List.getLast?_map] at hp
      obtain ⟨row, hrow, rfl⟩ := Option.map_eq_some_iff.1 hp
      rw [Text.toList_ofList]
      -- the last part is whole if the limit left a cut over, or if there was none
      by_cases hpos : 0 < n
      · rw [if_pos hpos] at hrow hlimit
        rw [List.length_map] at hlimit
        refine not_occursAt_last_cut (fun hlength => hlimit ⟨hpos, ?_⟩) hrow i
        omega
      · rw [if_neg hpos] at hrow
        exact not_occursAt_last_cut_of_length_le hne (Nat.le_of_eq Text.length_toList) hrow i
    single := fun h => absurd h hsep
    lastSingle := fun h => absurd h hsep
    empty := fun h => absurd h hsep }

theorem nil_intercalate {α : Type} (rows : List (List α)) :
    [].intercalate rows = rows.flatten := by
  induction rows with
  | nil => rfl
  | cons row rows ih =>
    cases rows with
    | nil => simp
    | cons row' rows =>
      rw [List.intercalate_cons_cons, ih, List.append_nil]
      rfl

/-- Nothing is lost by taking a text apart into its characters. -/
theorem flatten_characterRows (n : Int) (cs : List Point) : (characterRows n cs).flatten = cs := by
  have hsingle : ∀ l : List Point, (l.map ([·])).flatten = l := fun l => by
    rw [← List.flatMap_def, List.flatMap_singleton']
  rw [characterRows]
  split
  · rw [List.flatten_append, hsingle, List.flatten_singleton, List.take_append_drop]
  · exact hsingle cs

/-- Taking a text apart into its characters splits it. -/
theorem isSplit_characterRows (n : Int) (s : Text) :
    IsSplit s "" n ((characterRows n s.toList).map Text.ofList) := by
  have whole : Text.intercalate "" ((characterRows n s.toList).map Text.ofList) = s := by
    rw [intercalate_ofList, Text.toList_empty, nil_intercalate, flatten_characterRows,
      Text.ofList_toList]
  have hsingle : ∀ l : List Point, ∀ p ∈ (l.map ([·])).map Text.ofList, p.length = 1 := by
    intro l p hp
    simp only [List.map_map, List.mem_map] at hp
    obtain ⟨c, -, rfl⟩ := hp
    simp
  -- with fewer parts than characters asked for, the last characters are one part
  by_cases h : 0 < n ∧ n < s.toList.length
  · have hrows : (characterRows n s.toList).map Text.ofList =
        ((s.toList.take (n - 1).toNat).map ([·])).map Text.ofList ++
          [Text.ofList (s.toList.drop (n - 1).toNat)] := by
      rw [characterRows, if_pos h, List.map_append, List.map_singleton]
    have hlength : (((characterRows n s.toList).map Text.ofList).length : Int) = n := by
      rw [hrows]
      simp only [List.length_append, List.length_map, List.length_take, List.length_singleton]
      omega
    exact {
      whole
      atMost := fun _ => Int.le_of_eq hlength
      nonempty := fun h => absurd rfl h
      leftmost := fun h => absurd rfl h
      last := fun h => absurd rfl h
      single := fun _ p hp => by
        rw [hrows, List.dropLast_concat] at hp
        exact hsingle _ p hp
      lastSingle := fun _ hlimit => absurd ⟨h.1, hlength⟩ hlimit
      empty := fun _ hs => by
        rw [hs] at h
        exact absurd h.2 (by simp; omega) }
  · have hrows : (characterRows n s.toList).map Text.ofList =
        (s.toList.map ([·])).map Text.ofList := by
      rw [characterRows, if_neg h]
    exact {
      whole
      atMost := fun hpos => by
        rw [hrows, List.length_map, List.length_map]
        omega
      nonempty := fun h => absurd rfl h
      leftmost := fun h => absurd rfl h
      last := fun h => absurd rfl h
      single := fun _ p hp => by
        rw [hrows] at hp
        exact hsingle _ p (List.mem_of_mem_dropLast hp)
      lastSingle := fun _ _ p hp => by
        rw [hrows] at hp
        exact hsingle _ p (List.mem_of_getLast? hp)
      empty := fun _ hs => by rw [hrows, hs]; rfl }

/-- **Splitting a text cuts it at its leftmost separators, and joining the parts gives the text
again.** A call without a limit counts as one with the limit -1, and the limit is not zero. -/
theorem join_split (o o' : Origin) (s sep : Text) {limit : List Value} {n : Int}
    (hlimit : Limit limit n) (hn : n ≠ 0) :
    ∃ parts : List Text,
      apply .split (.text o s :: .text o' sep :: limit) = .ok (listOf parts) ∧
      (∀ o'', apply .join [listOf parts, .text o'' sep] = .ok (.ofString s)) ∧
      IsSplit s sep n parts := by
  have hsplit : ∃ parts, split (.text o s) (.text o' sep) (.int .typed n) = .ok (listOf parts) ∧
      IsSplit s sep n parts := by
    by_cases hsep : sep = ""
    · subst hsep
      exact ⟨_, split_empty o o' s hn, isSplit_characterRows n s⟩
    · exact ⟨_, split_text o o' s hsep hn hlimit.le_greatest, isSplit_cut n s hsep⟩
  obtain ⟨parts, hparts, hIs⟩ := hsplit
  refine ⟨parts, (hlimit.apply_split _ _).trans hparts, fun o'' => ?_, hIs⟩
  rw [apply_join, hIs.whole]

/-- Of the overlapping places of a separator the leftmost ones count, as many as the limit says. -/
theorem join_split_overlapping :
    Limit [.int .typed 3] 3 ∧ (3 : Int) ≠ 0 ∧
      ∃ parts : List Text,
        apply .split [.text .typed "xaaaxaaaax", .text .typed "aa", .int .typed 3] =
          .ok (listOf parts) ∧
        (∀ o'', apply .join [listOf parts, .text o'' "aa"] = .ok (.ofString "xaaaxaaaax")) ∧
        IsSplit "xaaaxaaaax" "aa" 3 parts := by
  have hlimit : Limit [.int .typed 3] 3 := .int (by decide) (by decide)
  exact ⟨hlimit, by decide, join_split .typed .typed "xaaaxaaaax" "aa" hlimit (by decide)⟩

/-- The last part keeps the separators beyond the limit. -/
example : apply .split [.text .typed "xaaaxaaaax", .text .typed "aa", .int .typed 3] =
    .ok (listOf ["x", "ax", "aax"]) := by rfl

end Library

end Admission
