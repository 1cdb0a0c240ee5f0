import Mathlib.Data.List.Basic

/-!
# Gathering lists

A list can be gathered from the answers of a computation about each element in turn, which stops
at the first failure. These lemmas take such a gathering apart along the list.

* `flatMapM_append`, `flatMapM_flatMap`: gathering over two lists, over a list of lists.
* `flatMapM_filterMap`: gathering over the elements that are kept.
* `flatMapM_congr`: computations that agree on the elements gather the same.
* `flatMapM_eq_ok`, `mapM_eq_ok`: what is gathered where nothing fails.
* `eq_flatMap_of_flatMapM_eq_ok`: what was gathered, where each answer is known.
* `exists_of_mapM_eq_error`: where a row of computations fails, one of them does.
* `getElem?_of_mapM_eq_ok`, `exists_of_mapM_eq_ok`, `length_of_mapM_eq_ok`: the answers, one for
  each element.
* `Except.bind_eq_ok_iff`, `Except.bind_eq_error_iff`: when a sequence of two computations succeeds
  or fails.
-/

namespace Except

variable {ε ε' α β : Type} {r : Except ε α}

/-- A sequence succeeds iff its first part does, and the second on the answer of the first. -/
theorem bind_eq_ok_iff {f : α → Except ε β} {b : β} :
    r >>= f = .ok b ↔ ∃ a, r = .ok a ∧ f a = .ok b := by
  cases r with
  | ok a => exact ⟨fun h => ⟨a, rfl, h⟩, fun ⟨_, ha, h⟩ => ok.inj ha ▸ h⟩
  | error e => exact ⟨nofun, nofun⟩

/-- A sequence fails iff its first part does, or the second on the answer of the first. -/
theorem bind_eq_error_iff {f : α → Except ε β} {e : ε} :
    r >>= f = .error e ↔ r = .error e ∨ ∃ a, r = .ok a ∧ f a = .error e := by
  cases r with
  | ok a =>
    refine ⟨fun h => .inr ⟨a, rfl, h⟩, ?_⟩
    rintro (h | ⟨_, ha, h⟩)
    · cases h
    · exact ok.inj ha ▸ h
  | error e' =>
    refine ⟨fun h => .inl (by cases h; rfl), ?_⟩
    rintro (h | ⟨_, ha, _⟩)
    · cases h; rfl
    · cases ha

theorem map_eq_ok_iff {f : α → β} {b : β} : r.map f = .ok b ↔ ∃ a, r = .ok a ∧ f a = b := by
  cases r <;> simp [Except.map]

/-- Changing the answer makes no difference to whether there is one. -/
theorem exists_map_eq_ok_iff {f : α → β} : (∃ b, r.map f = .ok b) ↔ ∃ a, r = .ok a := by
  cases r <;> simp [Except.map]

/-- A change that keeps different answers apart keeps different outcomes apart. -/
theorem map_inj {f : α → β} (hf : ∀ a a', f a = f a' → a = a') {r r' : Except ε α} :
    r.map f = r'.map f ↔ r = r' := by
  constructor
  · intro h
    cases r with
    | ok a =>
      cases r' with
      | ok a' => rw [hf a a' (ok.inj h)]
      | error e => cases h
    | error e =>
      cases r' with
      | ok a' => cases h
      | error e' => exact congrArg error (error.inj h)
  · rintro rfl
    rfl

theorem map_eq_error_iff {f : α → β} {e : ε} : r.map f = .error e ↔ r = .error e := by
  cases r <;> simp [Except.map]

theorem toOption_eq_some_iff {a : α} : r.toOption = some a ↔ r = .ok a := by
  cases r <;> simp [Except.toOption]

/-- What becomes of the faults of a sequence becomes of those of its parts. -/
theorem mapError_bind {f : α → Except ε β} {g : ε → ε'} :
    (r >>= f).mapError g = r.mapError g >>= fun a => (f a).mapError g := by
  cases r <;> rfl

theorem mapError_eq_ok_iff {f : ε → ε'} {a : α} : r.mapError f = .ok a ↔ r = .ok a := by
  cases r <;> simp [Except.mapError]

theorem mapError_eq_error_iff {f : ε → ε'} {e : ε'} :
    r.mapError f = .error e ↔ ∃ e', r = .error e' ∧ f e' = e := by
  cases r <;> simp [Except.mapError]

end Except

namespace List

section Monad

variable {m : Type → Type} [Monad m] [LawfulMonad m] {α β γ : Type}

theorem flatMapM_eq_mapM (f : α → m (List β)) (l : List α) :
    l.flatMapM f = flatten <$> l.mapM f := by
  induction l with
  | nil => simp
  | cons a l ih => simp [ih]

theorem flatMapM_append (f : α → m (List β)) (l k : List α) :
    (l ++ k).flatMapM f = do return (← l.flatMapM f) ++ (← k.flatMapM f) := by
  induction l with
  | nil => simp
  | cons a l ih => simp only [cons_append, flatMapM_cons, ih, bind_assoc, pure_bind, append_assoc]

theorem flatMapM_map (f : β → m (List γ)) (g : α → β) (l : List α) :
    (l.map g).flatMapM f = l.flatMapM fun a => f (g a) := by
  induction l with
  | nil => rfl
  | cons a l ih => simp [ih]

/-- Gathering over a list of lists is gathering over each of them. -/
theorem flatMapM_flatMap (f : β → m (List γ)) (g : α → List β) (l : List α) :
    (l.flatMap g).flatMapM f = l.flatMapM fun a => (g a).flatMapM f := by
  induction l with
  | nil => rfl
  | cons a l ih => simp [flatMapM_append, ih]

theorem flatMapM_filterMap (f : β → m (List γ)) (g : α → Option β) (l : List α) :
    (l.filterMap g).flatMapM f = l.flatMapM fun a => (g a).elim (pure []) f := by
  induction l with
  | nil => rfl
  | cons a l ih => cases h : g a <;> simp [h, ih]

/-- What is done to all that is gathered can be done to the answers about each element. -/
theorem map_flatMapM (g : β → γ) (f : α → m (List β)) (l : List α) :
    map g <$> l.flatMapM f = l.flatMapM fun a => map g <$> f a := by
  induction l with
  | nil => simp
  | cons a l ih => simp [← ih]

theorem flatMapM_congr {f g : α → m (List β)} {l : List α} (h : ∀ a ∈ l, f a = g a) :
    l.flatMapM f = l.flatMapM g := by
  induction l with
  | nil => rfl
  | cons a l ih =>
    rw [flatMapM_cons, flatMapM_cons, h a mem_cons_self, ih fun b hb => h b (mem_cons_of_mem a hb)]

end Monad

/-- Where a row of computations succeeds, the answer at an index is that about the element there. -/
theorem getElem?_of_mapM_eq_ok {ε α β : Type} {f : α → Except ε β} {l : List α} {k : List β}
    (h : l.mapM f = .ok k) {i : Nat} {a : α} (ha : l[i]? = some a) :
    ∃ b, f a = .ok b ∧ k[i]? = some b := by
  induction l generalizing k i with
  | nil => cases ha
  | cons c l ih =>
    rw [mapM_cons, Except.bind_eq_ok_iff] at h
    obtain ⟨b, hb, h⟩ := h
    obtain ⟨bs, hbs, h⟩ := Except.bind_eq_ok_iff.1 h
    obtain rfl : b :: bs = k := Except.ok.inj h
    cases i with
    | zero =>
      obtain rfl : c = a := Option.some.inj ha
      exact ⟨b, hb, rfl⟩
    | succ i => exact ih hbs ha

/-- Where a row of computations succeeds, it has as many answers. -/
theorem length_of_mapM_eq_ok {ε α β : Type} {f : α → Except ε β} {l : List α} {k : List β}
    (h : l.mapM f = .ok k) : k.length = l.length := by
  induction l generalizing k with
  | nil =>
    obtain rfl := Except.ok.inj h
    rfl
  | cons a l ih =>
    rw [mapM_cons, Except.bind_eq_ok_iff] at h
    obtain ⟨b, -, h⟩ := h
    obtain ⟨bs, hbs, h⟩ := Except.bind_eq_ok_iff.1 h
    obtain rfl : b :: bs = k := Except.ok.inj h
    rw [length_cons, length_cons, ih hbs]

/-- Each answer is that about the element at its index. -/
theorem exists_of_mapM_eq_ok {ε α β : Type} {f : α → Except ε β} {l : List α} {k : List β}
    (h : l.mapM f = .ok k) {i : Nat} {b : β} (hb : k[i]? = some b) :
    ∃ a, l[i]? = some a ∧ f a = .ok b := by
  have hi : i < l.length := length_of_mapM_eq_ok h ▸ (getElem?_eq_some_iff.1 hb).1
  obtain ⟨b', hb', hget⟩ := getElem?_of_mapM_eq_ok h (getElem?_eq_getElem hi)
  obtain rfl := Option.some.inj (hb.symm.trans hget)
  exact ⟨l[i], getElem?_eq_getElem hi, hb'⟩

theorem mapM_eq_ok {ε α β : Type} {f : α → Except ε β} {l : List α} {g : α → β}
    (h : ∀ a ∈ l, f a = .ok (g a)) : l.mapM f = .ok (l.map g) := by
  induction l with
  | nil => rfl
  | cons a l ih =>
    rw [mapM_cons, h a mem_cons_self, ih fun b hb => h b (mem_cons_of_mem a hb)]
    rfl

/-- A row of computations succeeds iff each of them does. -/
theorem exists_mapM_eq_ok_iff {ε α β : Type} {f : α → Except ε β} {l : List α} :
    (∃ k, l.mapM f = .ok k) ↔ ∀ a ∈ l, ∃ b, f a = .ok b := by
  induction l with
  | nil => exact ⟨fun _ _ ha => (nomatch ha), fun _ => ⟨[], rfl⟩⟩
  | cons a l ih =>
    simp only [mapM_cons, Except.bind_eq_ok_iff, forall_mem_cons, ← ih]
    constructor
    · rintro ⟨_, b, hb, bs, hbs, -⟩
      exact ⟨⟨b, hb⟩, bs, hbs⟩
    · rintro ⟨⟨b, hb⟩, bs, hbs⟩
      exact ⟨_, b, hb, bs, hbs, rfl⟩

/-- A row of computations fails as one of them does. -/
theorem exists_of_mapM_eq_error {ε α β : Type} {f : α → Except ε β} {l : List α} {e : ε}
    (h : l.mapM f = .error e) : ∃ a ∈ l, f a = .error e := by
  induction l with
  | nil => cases h
  | cons a l ih =>
    rw [mapM_cons, Except.bind_eq_error_iff] at h
    rcases h with h | ⟨b, -, h⟩
    · exact ⟨a, mem_cons_self, h⟩
    · rcases Except.bind_eq_error_iff.1 h with h | ⟨bs, -, h⟩
      · obtain ⟨c, hc, hf⟩ := ih h
        exact ⟨c, mem_cons_of_mem a hc, hf⟩
      · cases h

/-- Nothing fails if no answer does. -/
theorem flatMapM_eq_ok {ε α β : Type} {f : α → Except ε (List β)} {l : List α} {g : α → List β}
    (h : ∀ a ∈ l, f a = .ok (g a)) : l.flatMapM f = .ok (l.flatMap g) := by
  induction l with
  | nil => rfl
  | cons a l ih =>
    rw [flatMapM_cons, h a mem_cons_self, ih fun b hb => h b (mem_cons_of_mem a hb)]
    rfl

/-- What was gathered is what the answers are known to be. -/
theorem eq_flatMap_of_flatMapM_eq_ok {ε α β : Type} {f : α → Except ε (List β)} {l : List α}
    {g : α → List β} {k : List β} (h : l.flatMapM f = .ok k)
    (hg : ∀ a ∈ l, ∀ b, f a = .ok b → b = g a) : k = l.flatMap g := by
  induction l generalizing k with
  | nil => exact (Except.ok.inj h).symm
  | cons a l ih =>
    rw [flatMapM_cons, Except.bind_eq_ok_iff] at h
    obtain ⟨b, hb, h⟩ := h
    obtain ⟨bs, hbs, h⟩ := Except.bind_eq_ok_iff.1 h
    obtain rfl : b ++ bs = k := Except.ok.inj h
    have hhere := hg a mem_cons_self b hb
    have hrest := ih hbs fun c hc => hg c (mem_cons_of_mem a hc)
    rw [hhere, hrest, flatMap_cons]

end List
