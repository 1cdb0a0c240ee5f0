import Admission.Proofs.Receiver

/-!
# Pieces of texts and lists

Texts and lists are cut by two functions with tests of their own, and both of them come to the same:
a piece from one index up to another one is there exactly if the indices ascend inside the row. Two
pieces that meet make the one around them, a piece of a piece is a piece of the whole, and a
character is the piece of one step.

* `Contents.piece`: what stands between two indices.
* `Contents.piece_append`, `Contents.piece_piece`: pieces that meet, and pieces of pieces.
* `Contents.between`, `cutOut_eq`: the outcome of a cut.
* `charAt_eq`: a character as a piece.
* `IndexesPieces`, `IndexesCharacters`, `indexes_pieces`: **one scheme of indices for texts and
  lists.**
-/

namespace Admission.Library

/-! ### Pieces -/

/-- The number of characters of a text, or of items of a list. -/
def Contents.length : Contents → Nat
  | .text s => s.length
  | .list xs => xs.length

/-- What stands from one index up to another one. -/
def Contents.piece (i j : Nat) : Contents → Contents
  | .text s => .text (Text.ofList (s.toList.extract i j))
  | .list xs => .list (xs.extract i j)

/-- The function that cuts pieces out of contents. -/
def Contents.cutter : Contents → Extension
  | .text _ => .substring
  | .list _ => .slice

/-- What is said about indices between which there is no piece. Those of a text that lie inside and
descend are told apart. -/
def Contents.refusal (s e : Int) : Contents → Fault
  | .text t =>
    if s < 0 ∨ s > t.length ∨ e < 0 ∨ e > t.length then .outsideRange .substring s e
    else .reversed .substring s e
  | .list _ => .outsideRange .slice s e

/-- The outcome of a cut between two integers: the piece if they ascend inside, else a refusal. -/
def Contents.between (r : Contents) (s e : Int) : Except Fault Value :=
  if 0 ≤ s ∧ s ≤ e ∧ e ≤ r.length then .ok ((r.piece s.toNat e.toNat).value .typed)
  else .error (r.refusal s e)

section

variable {α : Type} (xs : List α) {a b c d : Nat}

theorem extract_append (hab : a ≤ b) (hbc : b ≤ c) :
    xs.extract a b ++ xs.extract b c = xs.extract a c := by
  have hsplit : c - a = (b - a) + (c - b) := by omega
  have hdrop : a + (b - a) = b := by omega
  rw [List.extract_eq_take_drop, List.extract_eq_take_drop, List.extract_eq_take_drop, hsplit,
    List.take_add, List.drop_drop, hdrop]

theorem extract_extract (hd : d ≤ b - a) :
    (xs.extract a b).extract c d = xs.extract (a + c) (a + d) := by
  have hinner : min (d - c) (b - a - c) = a + d - (a + c) := by omega
  rw [List.extract_eq_take_drop, List.extract_eq_take_drop, List.extract_eq_take_drop,
    List.drop_take, List.take_take, List.drop_drop, hinner]

end

variable {r : Contents} {a b c d : Nat}

theorem Contents.length_piece (hb : b ≤ r.length) : (r.piece a b).length = b - a := by
  cases r with
  | text s =>
    have hs : b ≤ s.toList.length := hb.trans_eq Text.length_toList.symm
    have hlength : (s.toList.extract a b).length = b - a := by
      rw [List.extract_eq_take_drop, List.length_take, List.length_drop]
      omega
    rw [← hlength]
    exact Text.length_ofList
  | list xs =>
    have hs : b ≤ xs.length := hb
    change (xs.extract a b).length = b - a
    rw [List.extract_eq_take_drop, List.length_take, List.length_drop]
    omega

/-- The piece between both ends is all. -/
theorem Contents.piece_all (r : Contents) : r.piece 0 r.length = r := by
  cases r with
  | text s =>
    change Contents.text (Text.ofList (s.toList.extract 0 s.length)) = _
    rw [← Text.length_toList, List.extract_eq_take_drop, List.drop_zero, Nat.sub_zero,
      List.take_length, Text.ofList_toList]
  | list xs =>
    change Contents.list (xs.extract 0 xs.length) = _
    rw [List.extract_eq_take_drop, List.drop_zero, Nat.sub_zero, List.take_length]

/-- **Pieces that meet** make the one around them. -/
theorem Contents.piece_append (hab : a ≤ b) (hbc : b ≤ c) (o o' : Origin) :
    Joined ((r.piece a b).value o) ((r.piece b c).value o') (r.piece a c) := by
  cases r with
  | text s =>
    have hjoined := Joined.text o o' (Text.ofList (s.toList.extract a b))
      (Text.ofList (s.toList.extract b c))
    rwa [← Text.ofList_append, extract_append _ hab hbc] at hjoined
  | list xs =>
    have hjoined := Joined.list o o' (xs.extract a b) (xs.extract b c)
    rwa [extract_append _ hab hbc] at hjoined

/-- **A piece of a piece** is a piece of the whole. -/
theorem Contents.piece_piece (hd : d ≤ b - a) :
    (r.piece a b).piece c d = r.piece (a + c) (a + d) := by
  cases r with
  | text s =>
    change Contents.text (Text.ofList
      ((Text.ofList (s.toList.extract a b)).toList.extract c d)) = _
    rw [Text.toList_ofList, extract_extract _ hd]
    rfl
  | list xs => exact congrArg Contents.list (extract_extract xs hd)

/-! ### Cuts -/

variable {o : Origin} {start stop index : Value} {s e i : Int} {t : Text} {xs : List Value}

/-- Where a piece of a text ends: at an integer, or with the text if there is none. -/
inductive EndsAt (t : Text) : Value → Int → Prop
  | integer {stop : Value} {e : Int} (h : stop.integer? = some e) : EndsAt t stop e
  | leftOut : EndsAt t .null t.length

/-- The tests of a text, one after the other, come to whether the indices ascend inside it. -/
theorem substring_tests (o : Origin) (t : Text) (s e : Int) :
    (do
      let outside ← if s < 0 then pure true
        else do
          let length ← lengthOf (.text o t)
          pure (decide (s > length ∨ e < 0 ∨ e > length))
      if outside then throw (.outsideRange .substring s e)
      else if s > e then throw (.reversed .substring s e)
      else textOf (← orBadCall ((Value.text o t).stretch? s.toNat e.toNat)) : Except Fault Value) =
      (Contents.text t).between s e := by
  -- the tests in a row ask whether both ends are inside the text, and then for their order
  have htests : ∀ outside : Bool, (outside ↔ s < 0 ∨ s > t.length ∨ e < 0 ∨ e > t.length) →
      (if outside then .error (.outsideRange .substring s e)
        else if s > e then .error (.reversed .substring s e)
        else .ok (((Contents.text t).piece s.toNat e.toNat).value .typed) : Except Fault Value) =
      (Contents.text t).between s e := by
    intro outside houtside
    have hinside : 0 ≤ s ∧ s ≤ e ∧ e ≤ (Contents.text t).length ↔ ¬ outside ∧ ¬ s > e := by
      change 0 ≤ s ∧ s ≤ e ∧ e ≤ t.length ↔ _
      rw [houtside]
      omega
    unfold Contents.between
    by_cases hout : outside
    · rw [if_pos hout, if_neg (fun h => (hinside.1 h).1 hout), Contents.refusal,
        if_pos (houtside.1 hout)]
    by_cases hdescend : s > e
    · rw [if_neg hout, if_pos hdescend, if_neg (fun h => (hinside.1 h).2 hdescend),
        Contents.refusal, if_neg (mt houtside.2 hout)]
    · rw [if_neg hout, if_neg hdescend, if_pos (hinside.2 ⟨hout, hdescend⟩)]
  by_cases hneg : s < 0
  · rw [if_pos hneg]
    exact htests true (iff_of_true rfl (.inl hneg))
  · rw [if_neg hneg]
    exact htests (decide _) (decide_eq_true_iff.trans (or_iff_right hneg).symm)

/-- **A text is cut** between two integers, and from one integer to its end. -/
theorem substring_eq (hs : start.integer? = some s) (he : EndsAt t stop e) :
    substring (.text o t) start stop = (Contents.text t).between s e := by
  have hstart : requireInt ⟨.substring, .start⟩ start = .ok s :=
    requireInt_of_argument (argument?_of_integer? hs)
  cases he with
  | leftOut =>
    unfold substring
    rw [hstart]
    exact substring_tests o t s t.length
  | integer h =>
    cases stop with
    | int _ _ | uint _ =>
      cases h
      unfold substring
      rw [hstart]
      exact substring_tests o t s _
    | _ => cases h

/-- **A list is cut** between two integers. -/
theorem slice_eq (hs : start.integer? = some s) (he : stop.integer? = some e) :
    slice (.list o xs) start stop = (Contents.list xs).between s e := by
  have hstart : requireInt ⟨.slice, .start⟩ start = .ok s :=
    requireInt_of_argument (argument?_of_integer? hs)
  have hstop : requireInt ⟨.slice, .stop⟩ stop = .ok e :=
    requireInt_of_argument (argument?_of_integer? he)
  unfold slice
  rw [hstart, hstop]
  change (if s < 0 then Except.error (Fault.outsideRange .slice s e)
    else if e > xs.length ∨ s > e then Except.error (Fault.outsideRange .slice s e)
    else Except.ok (Value.list .typed (xs.extract s.toNat e.toNat))) = _
  have hinside : 0 ≤ s ∧ s ≤ e ∧ e ≤ (Contents.list xs).length ↔
      ¬ s < 0 ∧ ¬ (e > xs.length ∨ s > e) := by
    change 0 ≤ s ∧ s ≤ e ∧ e ≤ xs.length ↔ _
    omega
  unfold Contents.between
  by_cases hneg : s < 0
  · rw [if_pos hneg, if_neg (fun h => (hinside.1 h).1 hneg)]
    rfl
  by_cases houtside : e > xs.length ∨ s > e
  · rw [if_neg hneg, if_pos houtside, if_neg (fun h => (hinside.1 h).2 houtside)]
    rfl
  · rw [if_neg hneg, if_neg houtside, if_pos (hinside.2 ⟨hneg, houtside⟩)]
    rfl

/-- The outcome of cutting contents from one argument up to another one. -/
def cutOut (o : Origin) (r : Contents) (start stop : Value) : Except Fault Value :=
  apply r.cutter [r.value o, start, stop]

/-- **Texts and lists are cut alike.** -/
theorem cutOut_eq (hs : start.integer? = some s) (he : stop.integer? = some e) :
    cutOut o r start stop = r.between s e := by
  cases r with
  | text t => exact substring_eq hs (.integer he)
  | list xs => exact slice_eq hs he

/-! ### Characters -/

/-- The piece of one step inside a row is one element. -/
theorem extract_succ {α : Type} {xs : List α} {i : Nat} {x : α} (h : xs[i]? = some x) :
    xs.extract i (i + 1) = [x] := by
  obtain ⟨hlt, rfl⟩ := List.getElem?_eq_some_iff.1 h
  have hone : i + 1 - i = 1 := by omega
  rw [List.extract_eq_take_drop, List.drop_eq_getElem_cons hlt, hone]
  rfl

/-- **A character** is the piece of one step from its index on, and the empty piece at the end. -/
theorem charAt_eq (hi : index.integer? = some i) :
    charAt (.text o t) index =
      if 0 ≤ i ∧ i ≤ t.length then
        .ok (((Contents.text t).piece i.toNat (min (i + 1) t.length).toNat).value .typed)
      else .error (.outside ⟨.charAt, .index⟩ i) := by
  have hint : requireInt ⟨.charAt, .index⟩ index = .ok i :=
    requireInt_of_argument (argument?_of_integer? hi)
  unfold charAt
  dsimp only
  rw [hint]
  change (if i = t.length then Except.ok (Value.ofString "")
    else if i < 0 ∨ i > t.length then Except.error (Fault.outside ⟨.charAt, .index⟩ i)
    else orBadCall ((Value.text o t).index? (.int .bare i)) >>= textOf) = _
  -- there is no character at the end, so the end is asked for first
  by_cases hend : i = t.length
  · have hinside : 0 ≤ i ∧ i ≤ t.length := by omega
    have hmin : (min (i + 1) t.length).toNat = i.toNat := by omega
    rw [if_pos hend, if_pos hinside, hmin, Contents.piece, List.extract_eq_take_drop,
      Nat.sub_self, List.take_zero]
    rfl
  by_cases houtside : i < 0 ∨ i > t.length
  · have hnot : ¬ (0 ≤ i ∧ i ≤ t.length) := by omega
    rw [if_neg hend, if_pos houtside, if_neg hnot]
  · have hinside : 0 ≤ i ∧ i ≤ t.length := by omega
    have hmin : (min (i + 1) t.length).toNat = i.toNat + 1 := by omega
    have hlt : i.toNat < t.toList.length := by
      rw [Text.length_toList]
      omega
    obtain ⟨c, hc⟩ : ∃ c, t.toList[i.toNat]? = some c := ⟨_, List.getElem?_eq_getElem hlt⟩
    have hindex : (Value.text o t).index? (.int .bare i) =
        some (.text .bare (Text.ofList [c])) := by
      have hneg : ¬ i < 0 := fun h => houtside (.inl h)
      simp only [Value.index?, Value.whole?, Value.at?, Option.bind_some, if_neg hneg, hc,
        Option.map_some]
    rw [if_neg hend, if_neg houtside, if_pos hinside, hmin, hindex, Contents.piece,
      extract_succ hc]
    rfl

/-! ### One scheme of indices -/

/-- **What it means that pieces are indexed:** between which integers there is one, and how they go
together. -/
structure IndexesPieces (o : Origin) (r : Contents) : Prop where
  /-- There is a piece exactly if the integers ascend inside. -/
  returns_iff : ∀ (start stop : Value) (s e : Int), start.integer? = some s →
    stop.integer? = some e →
    ((∃ w, cutOut o r start stop = .ok w) ↔ 0 ≤ s ∧ s ≤ e ∧ e ≤ r.length)
  /-- All other integers are refused, as outside or as descending. -/
  refuses : ∀ (start stop : Value) (s e : Int), start.integer? = some s →
    stop.integer? = some e →
    ¬ (0 ≤ s ∧ s ≤ e ∧ e ≤ r.length) →
    cutOut o r start stop = .error (.outsideRange r.cutter s e) ∨
      cutOut o r start stop = .error (.reversed r.cutter s e)
  /-- The piece between both ends is all. -/
  all : ∀ start stop : Value, start.integer? = some 0 → stop.integer? = some (r.length : Int) →
    cutOut o r start stop = .ok (r.value .typed)
  /-- A piece is as long as its indices are apart. -/
  length : ∀ (start stop : Value) (s e : Int), start.integer? = some s → stop.integer? = some e →
    0 ≤ s → s ≤ e → e ≤ r.length → ∃ part : Contents,
    cutOut o r start stop = .ok (part.value .typed) ∧ (part.length : Int) = e - s
  /-- Two pieces that meet make the one around them. -/
  adjacent : ∀ (start middle stop : Value) (s m e : Int), start.integer? = some s →
    middle.integer? = some m → stop.integer? = some e → 0 ≤ s → s ≤ m → m ≤ e → e ≤ r.length →
    ∃ left right whole : Contents, cutOut o r start middle = .ok (left.value .typed) ∧
      cutOut o r middle stop = .ok (right.value .typed) ∧
      cutOut o r start stop = .ok (whole.value .typed) ∧
      (left.value .typed).add (right.value .typed) = .ok (whole.value .bare)
  /-- A piece of a piece is a piece of the whole. -/
  nested : ∀ (start stop first last first' last' : Value) (a b c d : Int),
    start.integer? = some a → stop.integer? = some b → first.integer? = some c →
    last.integer? = some d → first'.integer? = some (a + c) → last'.integer? = some (a + d) →
    0 ≤ a → a ≤ b → b ≤ r.length → 0 ≤ c → c ≤ d → d ≤ b - a →
    ∃ outer inner : Contents, cutOut o r start stop = .ok (outer.value .typed) ∧
      cutOut .typed outer first last = .ok (inner.value .typed) ∧
      cutOut o r first' last' = .ok (inner.value .typed)

/-- **What it means that a text is indexed by characters,** too. -/
structure IndexesCharacters (o : Origin) (t : Text) : Prop extends IndexesPieces o (.text t) where
  /-- Without an end, a piece ends with the text. -/
  toEnd : ∀ start stop : Value, start.integer?.isSome → stop.integer? = some (t.length : Int) →
    apply .substring [.text o t, start] = cutOut o (.text t) start stop
  /-- A character is the piece of one step, or the empty piece at the end. -/
  character : ∀ (index next : Value) (i : Int), index.integer? = some i →
    next.integer? = some (min (i + 1) t.length) → 0 ≤ i → i ≤ t.length →
    ∃ w, apply .charAt [.text o t, index] = .ok w ∧ cutOut o (.text t) index next = .ok w
  /-- All other integers are refused. -/
  noCharacter : ∀ (index : Value) (i : Int), index.integer? = some i → i < 0 ∨ t.length < i →
    apply .charAt [.text o t, index] = .error (.outside ⟨.charAt, .index⟩ i)

theorem cutOut_inside {i j : Nat} (hs : start.integer? = some (i : Int))
    (he : stop.integer? = some (j : Int)) (hij : i ≤ j) (hj : j ≤ r.length) :
    cutOut o r start stop = .ok ((r.piece i j).value .typed) := by
  have hinside : 0 ≤ (i : Int) ∧ (i : Int) ≤ j ∧ (j : Int) ≤ r.length := by omega
  rw [cutOut_eq hs he, Contents.between, if_pos hinside, Int.toNat_natCast, Int.toNat_natCast]

theorem Joined.add {x y : Value} (h : Joined x y r) : x.add y = .ok (r.value .bare) := by
  cases h <;> rfl

theorem indexesPieces (o : Origin) (r : Contents) : IndexesPieces o r where
  returns_iff start stop s e hs he := by
    rw [cutOut_eq hs he, Contents.between]
    by_cases hinside : 0 ≤ s ∧ s ≤ e ∧ e ≤ r.length
    · rw [if_pos hinside]
      exact iff_of_true ⟨_, rfl⟩ hinside
    · rw [if_neg hinside]
      exact iff_of_false (fun ⟨_, h⟩ => nomatch h) hinside
  refuses start stop s e hs he hnot := by
    rw [cutOut_eq hs he, Contents.between, if_neg hnot]
    cases r with
    | list xs => exact .inl rfl
    | text t =>
      rw [Contents.refusal]
      split
      · exact .inl rfl
      · exact .inr rfl
  all start stop hs he := by
    rw [cutOut_inside (i := 0) hs he (Nat.zero_le _) (le_refl _), Contents.piece_all]
  length start stop s e hs he hnonneg hle hlength := by
    lift s to Nat using hnonneg
    lift e to Nat using (by omega)
    refine ⟨_, cutOut_inside hs he (by omega) (by omega), ?_⟩
    rw [Contents.length_piece (by omega)]
    omega
  adjacent start middle stop s m e hs hm he hnonneg hsm hme hlength := by
    lift s to Nat using hnonneg
    lift m to Nat using (by omega)
    lift e to Nat using (by omega)
    have hjoined := Contents.piece_append (r := r) (Int.ofNat_le.1 hsm) (Int.ofNat_le.1 hme)
      .typed .typed
    exact ⟨_, _, _, cutOut_inside hs hm (by omega) (by omega),
      cutOut_inside hm he (by omega) (by omega), cutOut_inside hs he (by omega) (by omega),
      hjoined.add⟩
  nested start stop first last first' last' a b c d ha hb hc hd ha' hb' hnonneg hab hlength
      hnonneg' hcd hinner := by
    lift a to Nat using hnonneg
    lift b to Nat using (by omega)
    lift c to Nat using hnonneg'
    lift d to Nat using (by omega)
    -- the ends inside the piece are counted from its start
    have hlengthPiece : (r.piece a b).length = b - a := Contents.length_piece (by omega)
    refine ⟨r.piece a b, r.piece (a + c) (a + d), cutOut_inside ha hb (by omega) (by omega), ?_,
      cutOut_inside (by simpa using ha') (by simpa using hb') (by omega) (by omega)⟩
    rw [cutOut_inside hc hd (by omega) (by omega), Contents.piece_piece (by omega)]

theorem indexesCharacters (o : Origin) (t : Text) : IndexesCharacters o t where
  toIndexesPieces := indexesPieces o (.text t)
  toEnd start stop hs he := by
    obtain ⟨s, hs⟩ := Option.isSome_iff_exists.1 hs
    exact (substring_eq hs .leftOut).trans (cutOut_eq (r := .text t) hs he).symm
  character index next i hi hnext hnonneg hle := by
    have hinside : 0 ≤ i ∧ i ≤ min (i + 1) t.length ∧ min (i + 1) (t.length : Int) ≤ t.length := by
      omega
    have hpiece : cutOut o (.text t) index next = .ok
        (((Contents.text t).piece i.toNat (min (i + 1) t.length).toNat).value .typed) := by
      rw [cutOut_eq hi hnext]
      exact if_pos hinside
    refine ⟨_, ?_, hpiece⟩
    exact (charAt_eq hi).trans (if_pos ⟨hnonneg, hle⟩)
  noCharacter index i hi houtside := by
    have hnot : ¬ (0 ≤ i ∧ i ≤ t.length) := by omega
    exact (charAt_eq hi).trans (if_neg hnot)

/-- **Texts and lists are cut by one scheme of indices.** -/
theorem indexes_pieces (o : Origin) (t : Text) (xs : List Value) :
    IndexesCharacters o t ∧ IndexesPieces o (.list xs) :=
  ⟨indexesCharacters o t, indexesPieces o (.list xs)⟩

/-- Pieces of a text and of a list, and a character. -/
theorem indexes_pieces_inside :
    (∃ left right whole : Contents,
      cutOut .typed (.text "abc") (.int .typed 0) (.int .typed 1) = .ok (left.value .typed) ∧
      cutOut .typed (.text "abc") (.int .typed 1) (.int .typed 3) = .ok (right.value .typed) ∧
      cutOut .typed (.text "abc") (.int .typed 0) (.int .typed 3) = .ok (whole.value .typed) ∧
      (left.value .typed).add (right.value .typed) = .ok (whole.value .bare)) ∧
    (∃ w, apply .charAt [.text .typed "abc", .int .typed 3] = .ok w ∧
      cutOut .typed (.text "abc") (.int .typed 3) (.int .typed 3) = .ok w) ∧
    (∃ part : Contents,
      cutOut .typed (.list [.null, .null]) (.int .typed 1) (.int .typed 2) =
        .ok (part.value .typed) ∧ (part.length : Int) = 2 - 1) :=
  have h := indexes_pieces .typed "abc" [.null, .null]
  ⟨h.1.adjacent _ _ _ 0 1 3 rfl rfl rfl (by decide) (by decide) (by decide) (by decide),
    h.1.character _ _ 3 rfl rfl (by decide) (by decide),
    h.2.length _ _ 1 2 rfl rfl (by decide) (by decide) (by decide)⟩

/-- An index may not count from the end. -/
example : cutOut .typed (.text "abc") (.int .typed (-2)) (.int .typed 3) =
    .error (.outsideRange .substring (-2) 3) := by rfl

end Admission.Library
