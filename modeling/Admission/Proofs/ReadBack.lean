import Admission.Proofs.WrittenText

/-!
# Reading what was written

A document is written without white space, and every part of it ends where something follows that is
no part of it: a comma, a bracket or the end. So the reader finds each part as it was written, and
the whole of it, if it is given as many steps as there are characters.

* `Document.BeginsValue`: the characters that a value begins with, of which none is white space.
* `Document.Exact`: documents that are read back as they are: those without floats.
* `Document.ReadsBack`: what the induction over documents carries: a value is read, whatever goes on
  behind it.
* `Document.Exact.read_write`: **reading a text gives back the document that it was written from.**
* `Document.Exact.allPrinted`: no control character is written.
-/

namespace Admission.Document

open Admission.Text

/-! ### The front of a value -/

/-- A character that a word or number begins with. -/
def BeginsPlain (c : Point) : Prop := c = 'n' ∨ c = 't' ∨ c = 'f' ∨ c = '-' ∨ c.isDigit

/-- A character that a value begins with. -/
def BeginsValue (c : Point) : Prop := c = '\x22' ∨ c = '[' ∨ c = '{' ∨ BeginsPlain c

/-- A character that a value does not begin with. -/
theorem BeginsValue.ne {c d : Point} (hc : BeginsValue c) (hd : ¬BeginsValue d) : c ≠ d := by
  rintro rfl
  exact hd hc

/-- There is no white space in front of a value. -/
theorem BeginsValue.skipSpace_eq {c : Point} (hc : BeginsValue c) (cs : List Point) :
    skipSpace (c :: cs) = c :: cs := by
  have hspace := hc.ne (d := ' ') (by simp [BeginsValue, BeginsPlain])
  have hline := hc.ne (d := '\n') (by simp [BeginsValue, BeginsPlain])
  have htab := hc.ne (d := '\t') (by simp [BeginsValue, BeginsPlain])
  have hreturn := hc.ne (d := '\r') (by simp [BeginsValue, BeginsPlain])
  simp [skipSpace, List.dropWhile, hspace, hline, htab, hreturn]

theorem beginsPlain_writeInt (n : Int) : ∃ c cs, writeInt n = c :: cs ∧ BeginsPlain c := by
  rw [writeInt]
  split
  · exact ⟨'-', _, rfl, .inr (.inr (.inr (.inl rfl)))⟩
  · obtain ⟨c, ds, hrow, hc⟩ := exists_writeNat n.natAbs
    exact ⟨c, ds, hrow, .inr (.inr (.inr (.inr hc)))⟩

/-- A value that begins like a word or number is one. -/
theorem readValue_plain {c : Point} (hc : BeginsPlain c) (more : Nat) (cs : List Point) :
    readValue (more + 1) (c :: cs) = readPlain (c :: cs) := by
  have hne : c ≠ '\x22' ∧ c ≠ '[' ∧ c ≠ '{' := by
    refine ⟨?_, ?_, ?_⟩
    all_goals
      rintro rfl
      revert hc
      simp [BeginsPlain]
  rw [readValue]
  · exact fun cs' h => hne.1 (List.cons.inj h).1
  · exact fun cs' h => hne.2.1 (List.cons.inj h).1
  · exact fun cs' h => hne.2.2 (List.cons.inj h).1

/-! ### Steps of the reader -/

/-- A list whose first item and further items are read is read. -/
theorem readValue_items {c : Point} {cs cs' rest : List Point} {more : Nat} {x : Document}
    {xs : List Document} (hc : BeginsValue c) (hx : readValue more (c :: cs) = .ok (x, cs'))
    (hxs : readItems more (skipSpace cs') = .ok (xs, rest)) :
    readValue (more + 1) ('[' :: c :: cs) = .ok (.list (x :: xs), rest) := by
  have hclose : c ≠ ']' := hc.ne (by simp [BeginsValue, BeginsPlain])
  rw [readValue, hc.skipSpace_eq]
  split
  · next h => exact absurd (List.cons.inj h).1 hclose
  · rw [hx]
    simp only [bind, Except.bind, hxs, pure, Except.pure]

theorem readItems_item {c : Point} {cs cs' rest : List Point} {more : Nat} {x : Document}
    {xs : List Document} (hc : BeginsValue c) (hx : readValue more (c :: cs) = .ok (x, cs'))
    (hxs : readItems more (skipSpace cs') = .ok (xs, rest)) :
    readItems (more + 1) (',' :: c :: cs) = .ok (x :: xs, rest) := by
  rw [readItems, hc.skipSpace_eq, hx]
  simp only [bind, Except.bind, hxs, pure, Except.pure]

/-- An object whose members are read from its first key on is read. -/
theorem readValue_members {cs rest : List Point} {more : Nat} {ms : List (Text × Document)}
    (hms : readMember more [] cs = .ok (ms, rest)) :
    readValue (more + 1) ('{' :: '\x22' :: cs) = .ok (.object ms, rest) := by
  have hquote : skipSpace (.char '\x22' :: cs) = .char '\x22' :: cs := rfl
  rw [readValue, hquote]
  split
  · next h => exact absurd (List.cons.inj h).1 (by decide)
  · simp only [expect, if_true, bind, Except.bind, hms, pure, Except.pure]

/-- The last member of an object. -/
theorem readMember_last {k : Text} {c : Point} {cs rest : List Point} {more : Nat} {v : Document}
    {before : List (Text × Document)} (hc : BeginsValue c)
    (hv : readValue more (c :: cs) = .ok (v, .char '}' :: rest)) :
    readMember (more + 1) before (textBody k ++ .char ':' :: c :: cs) =
      .ok (putMember k v before, rest) := by
  have hcolon : skipSpace (.char ':' :: c :: cs) = .char ':' :: c :: cs := rfl
  rw [readMember, readText_textBody]
  simp only [bind, Except.bind, hcolon, expect, if_true, hc.skipSpace_eq, hv]
  rfl

/-- A member in front of another one. -/
theorem readMember_next {k : Text} {c : Point} {cs cs' : List Point} {more : Nat} {v : Document}
    {before : List (Text × Document)} (hc : BeginsValue c)
    (hv : readValue more (c :: cs) = .ok (v, .char ',' :: .char '\x22' :: cs')) :
    readMember (more + 1) before (textBody k ++ .char ':' :: c :: cs) =
      readMember more (putMember k v before) cs' := by
  have hcolon : skipSpace (.char ':' :: c :: cs) = .char ':' :: c :: cs := rfl
  rw [readMember, readText_textBody]
  simp only [bind, Except.bind, hcolon, expect, if_true, hc.skipSpace_eq, hv]
  rfl

/-- In a row without a key twice, a key is none of those before it. -/
theorem not_mem_of_nodup_keys {k : Text} {v : Document} {before ms : List (Text × Document)}
    (h : ((before ++ (k, v) :: ms).map Prod.fst).Nodup) : k ∉ before.map Prod.fst := by
  rw [List.map_append, List.map_cons] at h
  intro hk
  exact (List.nodup_append.1 h).2.2 k hk k List.mem_cons_self rfl

/-- A new key is put at the end. -/
theorem putMember_of_not_mem {k : Text} {v : Document} {before : List (Text × Document)}
    (h : k ∉ before.map Prod.fst) : putMember k v before = before ++ [(k, v)] := by
  induction before with
  | nil => rfl
  | cons m before ih =>
    rw [List.map_cons, List.mem_cons, not_or] at h
    rw [putMember, if_neg (Ne.symm h.1), ih h.2, List.cons_append]

/-! ### Documents -/

/-- **Documents that are read back as they are:** without floats, with integers of as many digits as
are read, and without a key twice in an object. -/
inductive Exact : Document → Prop
  | null : Exact .null
  | bool (b : Bool) : Exact (.bool b)
  | int {n : Int} (digits : (Nat.toDigits 10 n.natAbs).length ≤ digitLimit) : Exact (.int n)
  | text (s : Text) : Exact (.text s)
  | list {items : List Document} (each : ∀ d ∈ items, Exact d) : Exact (.list items)
  | object {members : List (Text × Document)} (keys : (members.map Prod.fst).Nodup)
      (each : ∀ m ∈ members, Exact m.2) : Exact (.object members)

/-- A document is read as it was written, whatever goes on behind it. -/
structure ReadsBack (d : Document) : Prop where
  begins : ∃ c cs, writeChars d = c :: cs ∧ BeginsValue c
  reads : ∀ fuel rest, (writeChars d).length ≤ fuel → Clear rest →
    readValue fuel (writeChars d ++ rest) = .ok (d, rest)

/-- Whoever is given as many steps as there are characters can make one. -/
theorem exists_more {length fuel : Nat} (hpos : 0 < length) (h : length ≤ fuel) :
    ∃ more, fuel = more + 1 :=
  ⟨fuel - 1, by omega⟩

/-- Words and numbers are read as values. -/
theorem readsBack_plain {d : Document} (hbegins : ∃ c cs, writeChars d = c :: cs ∧ BeginsPlain c)
    (hread : ∀ rest, Clear rest → readPlain (writeChars d ++ rest) = .ok (d, rest)) :
    ReadsBack d := by
  obtain ⟨c, cs, hcs, hc⟩ := hbegins
  refine ⟨⟨c, cs, hcs, .inr (.inr (.inr hc))⟩, fun fuel rest hfuel hrest => ?_⟩
  obtain ⟨more, rfl⟩ := exists_more (List.length_pos_of_ne_nil (by simp [hcs])) hfuel
  rw [← hread rest hrest, hcs, List.cons_append, readValue_plain hc]

theorem readsBack_text (s : Text) : ReadsBack (.text s) := by
  refine ⟨⟨_, _, writeText_eq s, .inl rfl⟩, fun fuel rest hfuel hrest => ?_⟩
  rw [writeChars, writeText_eq] at hfuel ⊢
  obtain ⟨more, rfl⟩ := exists_more (Nat.succ_pos _) hfuel
  rw [List.cons_append, readValue, readText_textBody]
  rfl

/-- What is behind an item of a list is clear. -/
theorem clear_writeItems (xs : List Document) (rest : List Point) :
    Clear (writeItems xs ++ rest) := by
  cases xs with
  | nil => exact clear_cons (.inr (.inl rfl))
  | cons x xs => exact clear_cons (.inl rfl)

/-- An item at the front is read, and so are the items behind it. -/
theorem readValue_front {x : Document} {xs : List Document} {more : Nat} {rest : List Point}
    (hx : ReadsBack x) (hfuel : (writeChars x).length ≤ more)
    (hxs : readItems more (writeItems xs ++ rest) = .ok (xs, rest)) :
    ∃ c cs cs', writeChars x ++ (writeItems xs ++ rest) = c :: cs ∧ BeginsValue c ∧
      readValue more (c :: cs) = .ok (x, cs') ∧
        readItems more (skipSpace cs') = .ok (xs, rest) := by
  obtain ⟨⟨c, cs, hcs, hc⟩, hreads⟩ := hx
  have hclear := clear_writeItems xs rest
  have hvalue := hreads more _ hfuel hclear
  rw [← hclear.skipSpace_eq] at hxs
  rw [hcs, List.cons_append] at hvalue ⊢
  exact ⟨c, _, _, rfl, hc, hvalue, hxs⟩

/-- **Items that are read back each are read back in a row.** -/
theorem readItems_writeItems {xs : List Document} (h : ∀ d ∈ xs, ReadsBack d) :
    ∀ fuel rest, (writeItems xs).length ≤ fuel →
      readItems fuel (writeItems xs ++ rest) = .ok (xs, rest) := by
  induction xs with
  | nil =>
    intro fuel rest hfuel
    obtain ⟨more, rfl⟩ := exists_more (Nat.succ_pos _) hfuel
    rfl
  | cons x xs ih =>
    intro fuel rest hfuel
    obtain ⟨more, rfl⟩ := exists_more (Nat.succ_pos _) hfuel
    simp only [writeItems, List.length_cons, List.length_append] at hfuel
    have hxs := ih (fun d hd => h d (List.mem_cons_of_mem x hd)) more rest (by omega)
    obtain ⟨c, cs, cs', hfront, hc, hvalue, hitems⟩ :=
      readValue_front (h x List.mem_cons_self) (by omega) hxs
    rw [writeItems, List.cons_append, List.append_assoc, hfront]
    exact readItems_item hc hvalue hitems

/-- What is behind a member of an object is clear. -/
theorem clear_writeMembers (ms : List (Text × Document)) (rest : List Point) :
    Clear (writeMembers ms ++ rest) := by
  cases ms with
  | nil => exact clear_cons (.inr (.inr rfl))
  | cons m ms => exact clear_cons (.inl rfl)

/-- **Members of new keys, whose values are read back each, are read back in a row.** -/
theorem readMember_writeMembers {k : Text} {v : Document} {ms : List (Text × Document)}
    (h : ∀ m ∈ (k, v) :: ms, ReadsBack m.2) :
    ∀ fuel before rest, (textBody k ++ .char ':' :: writeChars v ++ writeMembers ms).length ≤ fuel →
      ((before ++ (k, v) :: ms).map Prod.fst).Nodup →
      readMember fuel before
          (textBody k ++ .char ':' :: (writeChars v ++ (writeMembers ms ++ rest))) =
        .ok (before ++ (k, v) :: ms, rest) := by
  induction ms generalizing k v with
  | nil =>
    intro fuel before rest hfuel hkeys
    have hback : ReadsBack v := h (k, v) List.mem_cons_self
    obtain ⟨⟨c, cs, hcs, hc⟩, hv⟩ := hback
    have hnew : k ∉ before.map Prod.fst := not_mem_of_nodup_keys hkeys
    simp only [List.length_append, List.length_cons] at hfuel
    obtain ⟨more, rfl⟩ := exists_more (by omega) hfuel
    have hvalue := hv more _ (by omega) (clear_writeMembers [] rest)
    rw [hcs, List.cons_append] at hvalue ⊢
    rw [readMember_last hc hvalue, putMember_of_not_mem hnew]
    rfl
  | cons m ms ih =>
    intro fuel before rest hfuel hkeys
    obtain ⟨k', v'⟩ := m
    have hback : ReadsBack v := h (k, v) List.mem_cons_self
    obtain ⟨⟨c, cs, hcs, hc⟩, hv⟩ := hback
    -- the key is new, so the member is put behind those that have been read
    have hnew : k ∉ before.map Prod.fst := not_mem_of_nodup_keys hkeys
    simp only [writeMembers, writeText_eq, List.cons_append, List.length_append,
      List.length_cons] at hfuel
    obtain ⟨more, rfl⟩ := exists_more (by omega) hfuel
    have hvalue := hv more _ (by omega) (clear_writeMembers ((k', v') :: ms) rest)
    have hlength :
        (textBody k' ++ .char ':' :: writeChars v' ++ writeMembers ms).length ≤ more := by
      simp only [List.length_append, List.length_cons]
      omega
    have hkeys' : (((before ++ [(k, v)]) ++ (k', v') :: ms).map Prod.fst).Nodup := by
      rw [List.append_assoc]
      exact hkeys
    have hrest := ih (fun m hm => h m (List.mem_cons_of_mem (k, v) hm)) more _ rest hlength hkeys'
    rw [hcs, List.cons_append] at hvalue ⊢
    simp only [writeMembers, writeText_eq, List.cons_append, List.append_assoc] at hvalue hrest ⊢
    rw [readMember_next hc hvalue, putMember_of_not_mem hnew, hrest]
    rfl

theorem readsBack_list {items : List Document} (h : ∀ d ∈ items, ReadsBack d) :
    ReadsBack (.list items) := by
  cases items with
  | nil =>
    refine ⟨⟨_, _, rfl, .inr (.inl rfl)⟩, fun fuel rest hfuel _ => ?_⟩
    obtain ⟨more, rfl⟩ := exists_more (Nat.succ_pos _) hfuel
    rfl
  | cons x xs =>
    refine ⟨⟨_, _, rfl, .inr (.inl rfl)⟩, fun fuel rest hfuel _ => ?_⟩
    obtain ⟨more, rfl⟩ := exists_more (Nat.succ_pos _) hfuel
    simp only [writeChars, List.length_cons, List.length_append] at hfuel
    have hxs := readItems_writeItems (fun d hd => h d (List.mem_cons_of_mem x hd)) more rest
      (by omega)
    obtain ⟨c, cs, cs', hfront, hc, hvalue, hitems⟩ :=
      readValue_front (h x List.mem_cons_self) (by omega) hxs
    rw [writeChars, List.cons_append, List.append_assoc, hfront]
    exact readValue_items hc hvalue hitems

theorem readsBack_object {members : List (Text × Document)}
    (hkeys : (members.map Prod.fst).Nodup) (h : ∀ m ∈ members, ReadsBack m.2) :
    ReadsBack (.object members) := by
  cases members with
  | nil =>
    refine ⟨⟨_, _, rfl, .inr (.inr (.inl rfl))⟩, fun fuel rest hfuel _ => ?_⟩
    obtain ⟨more, rfl⟩ := exists_more (Nat.succ_pos _) hfuel
    rfl
  | cons m ms =>
    obtain ⟨k, v⟩ := m
    refine ⟨⟨_, _, rfl, .inr (.inr (.inl rfl))⟩, fun fuel rest hfuel _ => ?_⟩
    obtain ⟨more, rfl⟩ := exists_more (Nat.succ_pos _) hfuel
    simp only [writeChars, writeText_eq, List.cons_append, List.length_cons,
      List.length_append] at hfuel
    have hlength : (textBody k ++ .char ':' :: writeChars v ++ writeMembers ms).length ≤ more := by
      simp only [List.length_append, List.length_cons]
      omega
    have hmembers := readMember_writeMembers h more [] rest hlength hkeys
    simp only [writeChars, writeText_eq, List.cons_append, List.append_assoc]
    exact readValue_members hmembers

/-- Every document in the domain is read as it was written, whatever goes on behind it. -/
theorem Exact.readsBack {d : Document} (h : Exact d) : ReadsBack d := by
  induction h with
  | null => exact readsBack_plain ⟨_, _, rfl, .inl rfl⟩ fun rest _ => rfl
  | bool b =>
    cases b with
    | true => exact readsBack_plain ⟨_, _, rfl, .inr (.inl rfl)⟩ fun rest _ => rfl
    | false => exact readsBack_plain ⟨_, _, rfl, .inr (.inr (.inl rfl))⟩ fun rest _ => rfl
  | @int n digits =>
    exact readsBack_plain (beginsPlain_writeInt n) fun rest hrest =>
      readPlain_writeInt hrest (length_writeNat _ ▸ digits)
  | text s => exact readsBack_text s
  | list _ ih => exact readsBack_list ih
  | object keys _ ih => exact readsBack_object keys ih

/-- **Reading a text gives back the document that it was written from.** -/
theorem Exact.read_write {d : Document} (h : Exact d) : read d.write = .ok d := by
  obtain ⟨⟨c, cs, hcs, hc⟩, hreads⟩ := h.readsBack
  have hfront : skipSpace d.write.toList = writeChars d := by
    rw [write, Text.toList_ofList, hcs, hc.skipSpace_eq]
  have hvalue := hreads ((writeChars d).length + 1) [] (Nat.le_succ _) clear_nil
  rw [List.append_nil] at hvalue
  rw [read]
  simp only [hfront, hvalue, bind, Except.bind, clear_nil.skipSpace_eq, if_true, pure, Except.pure]

/-! ### No control characters -/

namespace AllPrinted

theorem writeItems {xs : List Document} (h : ∀ d ∈ xs, AllPrinted (writeChars d)) :
    AllPrinted (writeItems xs) := by
  induction xs with
  | nil => exact cons (by decide) nil
  | cons x xs ih =>
    have hx := h x List.mem_cons_self
    have hxs := ih fun d hd => h d (List.mem_cons_of_mem x hd)
    rw [Document.writeItems]
    exact cons (by decide) (append hx hxs)

theorem writeMembers {ms : List (Text × Document)} (h : ∀ m ∈ ms, AllPrinted (writeChars m.2)) :
    AllPrinted (writeMembers ms) := by
  induction ms with
  | nil => exact cons (by decide) nil
  | cons m ms ih =>
    obtain ⟨k, v⟩ := m
    have hv : AllPrinted (writeChars v) := h (k, v) List.mem_cons_self
    have hms := ih fun m hm => h m (List.mem_cons_of_mem (k, v) hm)
    rw [Document.writeMembers]
    exact cons (by decide) (append (writeText k) (cons (by decide) (append hv hms)))

end AllPrinted

/-- **No control character is written.** -/
theorem Exact.allPrinted {d : Document} (h : Exact d) : AllPrinted (writeChars d) := by
  induction h with
  | null => exact .of_all rfl
  | bool b => cases b <;> exact .of_all rfl
  | int _ => exact .writeInt _
  | text s => exact .writeText s
  | @list items _ ih =>
    cases items with
    | nil => exact .cons (by decide) (.cons (by decide) .nil)
    | cons x xs =>
      have hx := ih x List.mem_cons_self
      have hxs := AllPrinted.writeItems fun d hd => ih d (List.mem_cons_of_mem x hd)
      rw [writeChars]
      exact .cons (by decide) (.append hx hxs)
  | @object members _ _ ih =>
    cases members with
    | nil => exact .cons (by decide) (.cons (by decide) .nil)
    | cons m ms =>
      obtain ⟨k, v⟩ := m
      have hv : AllPrinted (writeChars v) := ih (k, v) List.mem_cons_self
      have hms := AllPrinted.writeMembers fun m hm => ih m (List.mem_cons_of_mem (k, v) hm)
      rw [writeChars]
      exact .cons (by decide) (.append (.writeText k) (.cons (by decide) (.append hv hms)))

end Admission.Document
