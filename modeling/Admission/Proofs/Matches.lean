import Admission.Proofs.Piece
import Admission.Proofs.Splitting

/-!
# Matches of patterns

A pattern is matched with what follows it, and whatever its ways are, it only goes on: what follows
begins at a place that is not before the one where the pattern began, inside the text. So a match is
an extent, and since each search begins where the match before it ended, the matches stand in order
and with the gaps between them they are the text. An empty match does not bring the search further;
the next match at its place is not empty, so the number of matches is bounded and none is left out.

* `Pattern.GoesOn`, `Pattern.goesOn_run`: what one pattern does.
* `Pattern.IsExtent`, `Pattern.IsLeftmost`: the leftmost match.
* `Pattern.AreMatches`: all matches, in order and without a miss.
* `Pattern.InOrder.exists_gaps`: a text as the matches and the gaps between them.
* `Library.Searches`, `Library.searches_pattern`: **one match is the first of all, and a limit keeps
  the first ones.**
-/

namespace Admission

namespace Pattern

variable {s : Array Point} {one : Place → Next → Option Place} {here there r : Place} {next : Next}

/-! ### Places -/

/-- What follows succeeds at a place that is not before this one, inside the text. -/
def Arrives (s : Array Point) (here : Place) (next : Next) (r : Place) : Prop :=
  ∃ there : Place, here.pos ≤ there.pos ∧ there.pos ≤ s.size ∧ next there = some r

theorem Arrives.refl (hhere : here.pos ≤ s.size) (h : next here = some r) :
    Arrives s here next r :=
  ⟨here, Nat.le_refl _, hhere, h⟩

theorem Arrives.trans {next' : Next} (h : Arrives s here next r)
    (hnext : ∀ there : Place, there.pos ≤ s.size → next there = some r →
      Arrives s there next' r) : Arrives s here next' r := by
  obtain ⟨there, hle, hsize, hr⟩ := h
  obtain ⟨end', hle', hsize', hr'⟩ := hnext there hsize hr
  exact ⟨end', hle.trans hle', hsize', hr'⟩

theorem Arrives.pos_le (h : Arrives s here some r) : here.pos ≤ r.pos ∧ r.pos ≤ s.size := by
  obtain ⟨there, hle, hsize, hr⟩ := h
  cases hr
  exact ⟨hle, hsize⟩

theorem Arrives.after (h : Arrives s here some there)
    (hnext : there.pos ≤ s.size → Arrives s there next r) : Arrives s here next r := by
  obtain ⟨hle, hsize⟩ := h.pos_le
  obtain ⟨end', hle', hsize', hr⟩ := hnext hsize
  exact ⟨end', hle.trans hle', hsize', hr⟩

/-- **A way to match that goes on:** where it succeeds, what follows does so at a later place. -/
def GoesOn (s : Array Point) (one : Place → Next → Option Place) : Prop :=
  ∀ (here : Place) (next : Next) (r : Place), here.pos ≤ s.size → one here next = some r →
    Arrives s here next r

theorem goesOn_take (p : Point → Bool) : GoesOn s (take s p) := by
  intro here next r _ hr
  rw [take] at hr
  split at hr
  · rename_i c hc
    split at hr
    · have hlt : here.pos < s.size := (Array.getElem?_eq_some_iff.1 hc).1
      exact ⟨{ here with pos := here.pos + 1 }, Nat.le_succ _, hlt, hr⟩
    · cases hr
  · cases hr

/-- Equal characters all stand inside the text. -/
theorem add_le_of_sameText {fold : Fold} {n i j : Nat} (hj : j ≤ s.size)
    (h : sameText s fold n i j = true) : j + n ≤ s.size := by
  induction n generalizing i j with
  | zero => exact hj
  | succ n ih =>
    rw [sameText] at h
    split at h
    · rename_i hb
      have hlt : j < s.size := (Array.getElem?_eq_some_iff.1 hb).1
      have := ih hlt (Bool.and_eq_true_iff.1 h).2
      omega
    · cases h

theorem goesOn_rounds (hone : GoesOn s one) (least : Nat) (most : Option Nat) (greedy : Bool)
    (more done : Nat) (last : Option Nat) :
    GoesOn s (rounds one least most greedy more done last) := by
  induction more generalizing done last with
  | zero => exact fun here next r hhere hr => .refl hhere hr
  | succ more ih =>
    intro here next r hhere hr
    -- one round, and behind it the other rounds from where it ends
    have hround : ∀ last', one here (fun there =>
        rounds one least most greedy more (done + 1) last' there next) = some r →
        Arrives s here next r := fun last' h =>
      (hone _ _ _ hhere h).trans fun there hthere hr => ih _ _ _ _ _ hthere hr
    rw [rounds] at hr
    split at hr
    · exact hround _ hr
    · have hagain : ∀ again : Bool, (if again then one here (fun there =>
          rounds one least most greedy more (done + 1) (some here.pos) there next) else none) =
          some r → Arrives s here next r := by
        intro again h
        split at h
        · exact hround _ h
        · cases h
      dsimp only at hr
      split at hr
      · rcases Option.or_eq_some_iff.1 hr with h | ⟨-, h⟩
        · exact hagain _ h
        · exact .refl hhere h
      · rcases Option.or_eq_some_iff.1 hr with h | ⟨-, h⟩
        · exact .refl hhere h
        · exact hagain _ h

/-- Rounds that are kept end at a later place if each of them does. -/
theorem arrives_keptRounds {one : Place → Option Place}
    (hone : ∀ here r : Place, here.pos ≤ s.size → one here = some r → Arrives s here some r)
    (least : Nat) (most : Option Nat) (more done : Nat) (last : Option Nat)
    (hhere : here.pos ≤ s.size) (hr : keptRounds one least most more done last here = some r) :
    Arrives s here some r := by
  induction more generalizing done last here with
  | zero => exact .refl hhere hr
  | succ more ih =>
    have hround : ∀ there last', one here = some there →
        keptRounds one least most more (done + 1) last' there = some r → Arrives s here some r :=
      fun there last' hthere hrest =>
        (hone here there hhere hthere).after fun hsize => ih _ _ hsize hrest
    rw [keptRounds] at hr
    split at hr
    · obtain ⟨there, hthere, hrest⟩ := Option.bind_eq_some_iff.1 hr
      exact hround there _ hthere hrest
    · split at hr
      · split at hr
        · rename_i there hthere
          exact hround there _ hthere hr
        · exact .refl hhere hr
      · exact .refl hhere hr

/-- Looking around takes nothing. -/
theorem arrives_of_look {negated : Bool} (found? : Option Place) (hhere : here.pos ≤ s.size)
    (hr : (match found? with
      | some there => if negated then none else next { there with pos := here.pos }
      | none => if negated then next here else none) = some r) : Arrives s here next r := by
  cases found? with
  | none =>
    cases negated with
    | true => exact .refl hhere hr
    | false => cases hr
  | some there =>
    cases negated with
    | true => cases hr
    | false => exact ⟨⟨here.pos, there.groups⟩, Nat.le_refl _, hhere, hr⟩

/-- **A pattern goes on,** whatever follows it. -/
theorem goesOn_run (p : Pattern) : GoesOn s (p.run s) := by
  induction p with
  | empty => exact fun here next r hhere hr => .refl hhere hr
  | never => exact fun here next r _ hr => nomatch hr
  | char c fold => exact goesOn_take _
  | any breaks => exact goesOn_take _
  | oneOf cs => exact goesOn_take _
  | anchor a =>
    intro here next r hhere hr
    rw [run] at hr
    split at hr
    · exact .refl hhere hr
    · cases hr
  | seq p q ihp ihq =>
    exact fun here next r hhere hr =>
      (ihp _ _ _ hhere hr).trans fun there hthere => ihq _ _ _ hthere
  | alt p q ihp ihq =>
    intro here next r hhere hr
    rcases Option.or_eq_some_iff.1 hr with h | ⟨-, h⟩
    · exact ihp _ _ _ hhere h
    · exact ihq _ _ _ hhere h
  | loop p least most greed ih =>
    intro here next r hhere hr
    have hkept : ∀ here r : Place, here.pos ≤ s.size → p.run s here some = some r →
      Arrives s here some r := fun here r => ih here some r
    -- possessive rounds are a match of their own; the others are tried with what follows
    cases greed with
    | possessive =>
      obtain ⟨there, hthere, hr⟩ := Option.bind_eq_some_iff.1 hr
      exact (arrives_keptRounds hkept _ _ _ _ _ hhere hthere).after fun hsize => .refl hsize hr
    | greedy | lazy => exact goesOn_rounds ih _ _ _ _ _ _ _ _ _ hhere hr
  | group index p ih =>
    exact fun here next r hhere hr => (ih _ _ _ hhere hr).trans fun there hthere hr =>
      ⟨⟨there.pos, (index, here.pos, there.pos) :: there.groups⟩, Nat.le_refl _, hthere, hr⟩
  | reference index fold =>
    intro here next r hhere hr
    rw [run] at hr
    split at hr
    · cases hr
    · split at hr
      · rename_i h
        exact ⟨⟨_, here.groups⟩, Nat.le_add_right _ _, add_le_of_sameText hhere h, hr⟩
      · cases hr
  | ahead negated p =>
    intro here next r hhere hr
    rw [run] at hr
    exact arrives_of_look _ hhere hr
  | behind negated width p =>
    intro here next r hhere hr
    rw [run] at hr
    exact arrives_of_look _ hhere hr
  | atomic p ih =>
    intro here next r hhere hr
    obtain ⟨there, hthere, hr⟩ := Option.bind_eq_some_iff.1 hr
    exact (ih _ _ _ hhere hthere).after fun hsize => .refl hsize hr
  | choice index yes no ihyes ihno =>
    intro here next r hhere hr
    rw [run] at hr
    split at hr
    · exact ihyes _ _ _ hhere hr
    · exact ihno _ _ _ hhere hr

/-! ### Extents -/

/-- **An extent in a text,** from a place on. -/
structure IsExtent (s : Array Point) (start : Nat) (extent : Nat × Nat) : Prop where
  start_le : start ≤ extent.1
  le : extent.1 ≤ extent.2
  le_size : extent.2 ≤ s.size

theorem IsExtent.start_le_stop {start : Nat} {extent : Nat × Nat} (h : IsExtent s start extent) :
    start ≤ extent.2 :=
  h.start_le.trans h.le

variable {p : Pattern} {start stop i j k : Nat} {nonEmpty : Bool}

theorem matchAt_bounds (hstart : start ≤ s.size) (h : matchAt s p start nonEmpty = some stop) :
    start ≤ stop ∧ stop ≤ s.size ∧ (nonEmpty = true → stop ≠ start) := by
  obtain ⟨r, hr, rfl⟩ := Option.map_eq_some_iff.1 h
  obtain ⟨there, hle, hsize, hend⟩ := goesOn_run p ⟨start, []⟩ _ r hstart hr
  dsimp only at hend
  split at hend
  · cases hend
  · rename_i hnot
    cases hend
    refine ⟨hle, hsize, fun hne heq => hnot ?_⟩
    rw [hne, heq]
    exact beq_self_eq_true start

/-- The first number with an answer. -/
theorem exists_of_findSome?_range {β : Type} {f : Nat → Option β} {n : Nat} {b : β}
    (h : (List.range n).findSome? f = some b) : ∃ a < n, f a = some b ∧ ∀ k < a, f k = none := by
  obtain ⟨front, a, rest, hrange, ha, hnone⟩ := List.findSome?_eq_some_iff.1 h
  have hn : a < n := by
    rw [← List.mem_range, hrange]
    exact List.mem_append_right front List.mem_cons_self
  refine ⟨a, hn, ha, fun k hk => ?_⟩
  have hsorted : (front ++ a :: rest).Pairwise (· < ·) := hrange ▸ List.pairwise_lt_range
  have hmem : k ∈ front ++ a :: rest := hrange ▸ List.mem_range.2 (hk.trans hn)
  rcases List.mem_append.1 hmem with hfront | hrest
  · exact hnone k hfront
  · rcases List.mem_cons.1 hrest with rfl | hrest
    · exact absurd hk (Nat.lt_irrefl k)
    · have := (List.pairwise_cons.1 (List.pairwise_append.1 hsorted).2.1).1 k hrest
      omega

theorem add_beq_left (start k : Nat) : (start + k == start) = (k == 0) := by
  rw [Bool.eq_iff_iff, beq_iff_eq, beq_iff_eq, Nat.add_eq_left]

/-- **The leftmost match from a place on:** it starts where there is one for the first time. Only at
the place itself an empty one may be ruled out. -/
structure IsLeftmost (s : Array Point) (p : Pattern) (start : Nat) (nonEmpty : Bool)
    (extent : Nat × Nat) : Prop where
  start_le : start ≤ extent.1
  le_size : extent.1 ≤ s.size
  matchAt_eq : matchAt s p extent.1 (nonEmpty && extent.1 == start) = some extent.2
  first : ∀ k, start ≤ k → k < extent.1 → matchAt s p k (nonEmpty && k == start) = none

theorem isLeftmost_firstMatch {e : Nat × Nat} (h : firstMatch s p start nonEmpty = some e) :
    IsLeftmost s p start nonEmpty e := by
  obtain ⟨a, ha, hsome, hnone⟩ := exists_of_findSome?_range h
  obtain ⟨stop, hstop, rfl⟩ := Option.map_eq_some_iff.1 hsome
  have hsize : start + a ≤ s.size := by omega
  refine ⟨Nat.le_add_right _ _, hsize, by rwa [add_beq_left], fun k hk hlt => ?_⟩
  obtain ⟨d, rfl⟩ := Nat.exists_eq_add_of_le hk
  rw [add_beq_left]
  exact Option.map_eq_none_iff.1 (hnone d (Nat.lt_of_add_lt_add_left hlt))

/-- Where there is no leftmost match, there is none at all. -/
theorem firstMatch_eq_none (h : firstMatch s p start nonEmpty = none) (hk : start ≤ k)
    (hsize : k ≤ s.size) : matchAt s p k (nonEmpty && k == start) = none := by
  obtain ⟨d, rfl⟩ := Nat.exists_eq_add_of_le hk
  rw [add_beq_left]
  exact Option.map_eq_none_iff.1
    (List.findSome?_eq_none_iff.1 h d (List.mem_range.2 (by omega)))

/-- The leftmost match is an extent, and where it must not be empty at the start, it ends later. -/
theorem firstMatch_bounds (h : firstMatch s p start nonEmpty = some (i, j)) :
    IsExtent s start (i, j) ∧ (nonEmpty = true → start < j) := by
  have hleftmost := isLeftmost_firstMatch h
  have hstart : start ≤ i := hleftmost.start_le
  obtain ⟨hle, hj, hne⟩ := matchAt_bounds hleftmost.le_size hleftmost.matchAt_eq
  refine ⟨⟨hstart, hle, hj⟩, fun hnonEmpty => ?_⟩
  by_cases hi : i = start
  · subst hi
    have : j ≠ i := hne (by rw [hnonEmpty, beq_self_eq_true]; rfl)
    omega
  · omega

/-! ### All matches -/

/-- So many matches there can be from a place on: each one ends later, or it is empty and the next
one is not. -/
def limitFrom (s : Array Point) (start : Nat) (nonEmpty : Bool) : Nat :=
  2 * (s.size - start) + if nonEmpty then 0 else 1

theorem limitFrom_lt (h : firstMatch s p start nonEmpty = some (i, j)) :
    limitFrom s j (i == j) < limitFrom s start nonEmpty := by
  obtain ⟨⟨hstart, hle, hsize⟩, hne⟩ := firstMatch_bounds h
  dsimp only at hstart hle hsize
  unfold limitFrom
  by_cases heq : i = j
  · rw [heq, beq_self_eq_true, if_pos rfl]
    cases nonEmpty with
    | true =>
      have := hne rfl
      omega
    | false =>
      rw [if_neg Bool.false_ne_true]
      omega
  · rw [beq_false_of_ne heq, if_neg Bool.false_ne_true]
    omega

/-- Where the pattern matches, the leftmost match does not start later. -/
theorem exists_firstMatch (hk : start ≤ k) (hsize : k ≤ s.size)
    (hmatch : (matchAt s p k (nonEmpty && k == start)).isSome) :
    ∃ i j, firstMatch s p start nonEmpty = some (i, j) ∧ i ≤ k := by
  cases hfirst : firstMatch s p start nonEmpty with
  | none =>
    rw [firstMatch_eq_none hfirst hk hsize] at hmatch
    cases hmatch
  | some e =>
    refine ⟨e.1, e.2, rfl, Nat.le_of_not_lt fun hlt => ?_⟩
    rw [(isLeftmost_firstMatch hfirst).first k hk hlt] at hmatch
    cases hmatch

/-- **No match is left out:** where the pattern matches, one of the extents is around the place. The
bound on their number is none. -/
theorem exists_extent {more : Nat} (hmore : limitFrom s start nonEmpty ≤ more) (hk : start ≤ k)
    (hsize : k ≤ s.size) (hmatch : (matchAt s p k (nonEmpty && k == start)).isSome) :
    ∃ e ∈ matchesFrom s p more start nonEmpty, e.1 ≤ k ∧ k ≤ e.2 := by
  induction more generalizing start nonEmpty with
  | zero =>
    obtain ⟨i, j, hfirst, -⟩ := exists_firstMatch hk hsize hmatch
    have := limitFrom_lt hfirst
    omega
  | succ more ih =>
    obtain ⟨i, j, hfirst, hik⟩ := exists_firstMatch hk hsize hmatch
    rw [matchesFrom, hfirst]
    by_cases hkj : k ≤ j
    · exact ⟨(i, j), List.mem_cons_self, hik, hkj⟩
    -- behind the first match, the place is not the start any more
    have hj : start ≤ j := (firstMatch_bounds hfirst).1.start_le_stop
    have hrest : (matchAt s p k ((i == j) && k == j)).isSome := by
      rw [beq_false_of_ne (by omega : k ≠ start), Bool.and_false] at hmatch
      rwa [beq_false_of_ne (by omega : k ≠ j), Bool.and_false]
    have hlt := limitFrom_lt hfirst
    obtain ⟨e, he, hbounds⟩ := ih (by omega) (by omega) hrest
    exact ⟨e, List.mem_cons_of_mem _ he, hbounds⟩

/-- Every extent is that of a match. -/
theorem exists_matchAt {more : Nat} {e : Nat × Nat}
    (he : e ∈ matchesFrom s p more start nonEmpty) : ∃ b, matchAt s p e.1 b = some e.2 := by
  induction more generalizing start nonEmpty with
  | zero => cases he
  | succ more ih =>
    rw [matchesFrom] at he
    cases hfirst : firstMatch s p start nonEmpty with
    | none =>
      rw [hfirst] at he
      cases he
    | some first =>
      rw [hfirst] at he
      rcases List.mem_cons.1 he with rfl | hrest
      · exact ⟨_, (isLeftmost_firstMatch hfirst).matchAt_eq⟩
      · exact ih hrest

/-- **Extents one after the other,** from a place on. -/
inductive InOrder (s : Array Point) : Nat → List (Nat × Nat) → Prop
  | nil (start : Nat) : InOrder s start []
  | cons {start : Nat} {e : Nat × Nat} {es : List (Nat × Nat)} (first : IsExtent s start e)
      (rest : InOrder s e.2 es) : InOrder s start (e :: es)

/-- **Matches stand in order:** each one begins where the one before it ended, or later. -/
theorem inOrder_matchesFrom (p : Pattern) (more start : Nat) (nonEmpty : Bool) :
    InOrder s start (matchesFrom s p more start nonEmpty) := by
  induction more generalizing start nonEmpty with
  | zero => exact .nil start
  | succ more ih =>
    rw [matchesFrom]
    cases hfirst : firstMatch s p start nonEmpty with
    | none => exact .nil start
    | some e => exact .cons (firstMatch_bounds hfirst).1 (ih _ _)

/-- The text of an extent. -/
def stretch (s : Array Point) (extent : Nat × Nat) : Text := Text.ofList (slice s extent)

/-- **With the gaps before them, extents in order are the text** up to the rest of it. -/
theorem InOrder.exists_gaps {es : List (Nat × Nat)} (h : InOrder s start es)
    (hstart : start ≤ s.size) : ∃ (gaps : List Text) (rest : Text), gaps.length = es.length ∧
      Text.ofList (s.toList.extract start s.size) =
        Text.join (List.zipWith (· ++ ·) gaps (es.map (stretch s))) ++ rest := by
  induction h with
  | nil start => exact ⟨[], _, rfl, Text.empty_append.symm⟩
  | @cons start e es first _ ih =>
    obtain ⟨gaps, rest, hlength, hrest⟩ := ih first.le_size
    refine ⟨Text.ofList (s.toList.extract start e.1) :: gaps, rest, congrArg Nat.succ hlength, ?_⟩
    have hstretch : stretch s e = Text.ofList (s.toList.extract e.1 e.2) :=
      congrArg Text.ofList Array.toList_extract
    rw [List.map_cons, List.zipWith_cons_cons, Text.join_cons, hstretch, Text.append_assoc,
      Text.append_assoc, ← hrest, ← Text.ofList_append, ← Text.ofList_append,
      Library.extract_append _ first.le first.le_size,
      Library.extract_append _ first.start_le (first.le.trans first.le_size)]

/-- **What it means that extents are all matches** of a pattern in a text. -/
structure AreMatches (s : Array Point) (p : Pattern) (es : List (Nat × Nat)) : Prop where
  inOrder : InOrder s 0 es
  /-- Each one is that of a match. -/
  sound : ∀ e ∈ es, ∃ b, matchAt s p e.1 b = some e.2
  /-- Where the pattern matches, one of them is around the place. -/
  complete : ∀ k ≤ s.size, (matchAt s p k false).isSome → ∃ e ∈ es, e.1 ≤ k ∧ k ≤ e.2

/-- **All matches are found.** -/
theorem exists_areMatches (p : Pattern) (text : List Point) : ∃ es,
    AreMatches text.toArray p es ∧ p.allMatches text = es.map (slice text.toArray) := by
  refine ⟨matchesFrom text.toArray p _ 0 false, ⟨?_, fun e he => ?_, fun k hk hmatch => ?_⟩, rfl⟩
  · exact inOrder_matchesFrom p _ 0 false
  · exact exists_matchAt he
  · have hbound : limitFrom text.toArray 0 false ≤ 2 * text.toArray.size + 2 := by
      rw [limitFrom, if_neg Bool.false_ne_true]
      omega
    exact exists_extent hbound (Nat.zero_le k) hk hmatch

/-- The leftmost match is the first one of all. -/
theorem find?_eq_head? (p : Pattern) (text : List Point) :
    p.find? text = (p.allMatches text).head? := by
  unfold find? allMatches
  dsimp only
  rw [matchesFrom]
  cases firstMatch text.toArray p 0 false <;> rfl

end Pattern

namespace Library

open Pattern

/-! ### Searching a text -/

/-- A text is accepted as a pattern for texts. -/
def IsPattern (q : Text) : Prop := ∃ p, Pattern.read .text q.toList = .ok p

/-- **What it means that a text is searched for a pattern,** with the stretches that are found. -/
structure Searches (o o' : Origin) (t q : Text) (found : List Text) : Prop where
  findAll : apply .findAll [.text o t, .text o' q] = .ok (listOf found)
  /-- They are the stretches of all matches. -/
  areMatches : ∃ p es, Pattern.read .text q.toList = .ok p ∧
    AreMatches t.toList.toArray p es ∧ found = es.map (stretch t.toList.toArray)
  /-- A limit keeps the first ones, and a negative one keeps all. -/
  limited : ∀ (limit : Value) (n : Int), limit.integer? = some n →
    apply .findAll [.text o t, .text o' q, limit] =
      .ok (listOf (if n < 0 then found else found.take n.toNat))
  /-- One stretch is the first of all, or empty if there is none. -/
  find : apply .find [.text o t, .text o' q] = .ok (.ofString (found.headD ""))
  /-- The stretches stand in the text in order and do not overlap. -/
  inOrder : ∃ (gaps : List Text) (rest : Text), gaps.length = found.length ∧
    t = Text.join (List.zipWith (· ++ ·) gaps found) ++ rest

variable {p : Pattern} {o o' : Origin} {t q : Text} {limit : Value} {n : Int}

theorem patternOf_text (hp : Pattern.read .text q.toList = .ok p) :
    patternOf (.text o q) = .ok (.text, p) := by
  simp only [patternOf, mediumOf, bind, Except.bind, hp, pure, Except.pure]

theorem findAll_text (hp : Pattern.read .text q.toList = .ok p) (hn : limit.integer? = some n) :
    findAll (.text o t) (.text o' q) limit = .ok (listOf
      (if n < 0 then (p.allMatches t.toList).map Text.ofList
        else ((p.allMatches t.toList).map Text.ofList).take n.toNat)) := by
  have hint : requireInt ⟨.findAll, .limit⟩ limit = .ok n :=
    requireInt_of_argument (argument?_of_integer? hn)
  have htexts : ∀ found : List (List Point), found.mapM (textOfMatch .text) =
      .ok ((found.map Text.ofList).map Value.ofString) := fun found => by
    rw [List.map_map]
    exact List.mapM_eq_ok fun _ _ => rfl
  unfold findAll
  rw [hint, patternOf_text hp]
  change (do return Value.list .typed (← (if n < 0 then p.allMatches t.toList
    else (p.allMatches t.toList).take n.toNat).mapM (textOfMatch .text))) = _
  rw [htexts]
  by_cases hneg : n < 0
  · rw [if_pos hneg, if_pos hneg]
    rfl
  · rw [if_neg hneg, if_neg hneg, List.map_take]
    rfl

theorem find_text (hp : Pattern.read .text q.toList = .ok p) :
    find (.text o t) (.text o' q) =
      .ok (.ofString (((p.allMatches t.toList).map Text.ofList).headD "")) := by
  unfold find
  rw [patternOf_text hp]
  change textOfMatch .text ((p.find? t.toList).getD []) = _
  rw [find?_eq_head?]
  cases p.allMatches t.toList <;> rfl

/-- **A text is searched for every pattern** that is accepted. -/
theorem searches_pattern (o o' : Origin) (t : Text) (hq : IsPattern q) :
    ∃ found, Searches o o' t q found := by
  obtain ⟨p, hp⟩ := hq
  obtain ⟨es, hmatches, hall⟩ := exists_areMatches p t.toList
  obtain ⟨gaps, rest, hlength, hrest⟩ := hmatches.inOrder.exists_gaps (Nat.zero_le _)
  have hfound : (p.allMatches t.toList).map Text.ofList = es.map (stretch t.toList.toArray) := by
    rw [hall, List.map_map]
    rfl
  have hwhole : Text.ofList (t.toList.toArray.toList.extract 0 t.toList.toArray.size) = t := by
    rw [List.extract_eq_take_drop, List.drop_zero, Nat.sub_zero, List.size_toArray,
      List.take_length, Text.ofList_toList]
  rw [hwhole] at hrest
  exact ⟨es.map (stretch t.toList.toArray), {
    findAll := hfound ▸ findAll_text hp (show noLimit.integer? = some (-1) from rfl)
    areMatches := ⟨p, es, hp, hmatches, rfl⟩
    limited := fun limit n hn => hfound ▸ findAll_text hp hn
    find := hfound ▸ find_text hp
    inOrder := ⟨gaps, rest, hlength.trans (List.length_map _).symm, hrest⟩ }⟩

/-- A pattern may match the empty text. -/
theorem searches_emptyMatches :
    IsPattern "a*" ∧ ∃ found, Searches .typed .typed "baac" "a*" found :=
  ⟨⟨_, rfl⟩, searches_pattern .typed .typed "baac" ⟨_, rfl⟩⟩

/-- Empty matches stand before a character that does not match, behind a match and at the end. -/
example : apply .findAll [.ofString "baac", .ofString "a*"] =
    .ok (listOf ["", "aa", "", ""]) := by rfl

end Library

end Admission
