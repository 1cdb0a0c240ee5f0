import Mathlib.Data.List.Basic
import Admission.Expr.Basic

/-!
# Free and bound names

A macro gives the names of its binders to the elements in its body. So a name that is looked up
in an expression stands for a variable of the bindings, or for that of a macro around it.

* `Expr.Mention`: a place in an expression where a name stands, and what it stands for there.
* `Expr.mentions`: all of them; without their roles they are the occurrences
  (`Expr.map_mentions`).
* `Expr.names_lastName?`: the name that a binder binds occurs in it.
* `Expr.scoped_mentions`: **what a macro binds in an expression is named in a binder in it.**
* `Expr.free_mem_map_under`: what is free under a macro is free in its body and not bound by it.
-/

namespace Admission.Expr

/-! ### Mentions -/

/-- What a name stands for at its place. -/
inductive Role where
  /-- A variable of the bindings that the expression is evaluated under. -/
  | free
  /-- The variable of a macro around it. -/
  | bound
  /-- Nothing: it stands in the binder of a macro, which is not evaluated. -/
  | binder
  deriving DecidableEq, Repr

/-- A place in an expression where a name stands, and what it stands for there. -/
structure Mention extends Occurrence where
  role : Role
  deriving DecidableEq, Repr

/-- A mention as it is under a macro that binds a name. -/
def Mention.under (bound? : Option Text) (m : Mention) : Mention :=
  if m.role = .free ∧ bound? = some m.name then { m with role := .bound } else m

/-- The mentions in the binder of a macro. -/
def binders (binder : Expr) : List Mention := (occurrences binder).map (⟨·, .binder⟩)

mutual

/-- **The names in an expression that are looked up, with what they stand for.** A name behind a
point is bound by macros like any other. -/
def mentions : Expr → List Mention
  | .literal _ | .defective => []
  | .name n => [{ name := n, role := .free }]
  | .root n => [{ name := n, role := .free }]
  | .rootCall n args => { name := n, called := true, role := .free } :: mentionsInAll args
  | .list items => mentionsInAll items
  | .map entries => mentionsInEntries entries
  | .operation _ operands => mentionsInAll operands
  | .choose c a b => mentions c ++ mentions a ++ mentions b
  | .select e _ => mentions e
  | .call _ args => mentionsInAll args
  | .method e _ args => mentions e ++ mentionsInAll args
  | .message e fields => mentions e ++ mentionsInFields fields
  | .has args => mentionsInAll args
  | .dyn args => mentionsInAll args
  | .comprehension _ range x body =>
    mentions range ++ binders x ++ (mentions body).map (.under x.lastName?)
  | .reduce range r x start body =>
    mentions range ++ binders r ++ binders x ++ mentions start ++
      ((mentions body).map (.under x.lastName?)).map (.under r.lastName?)
  | .minimum range args => mentions range ++ mentionsInAll args
  | .malformed range args => mentions range ++ mentionsInAll args

/-- The mentions in a row of expressions. -/
def mentionsInAll : List Expr → List Mention
  | [] => []
  | e :: es => mentions e ++ mentionsInAll es

/-- The mentions in the keys and values of a map. -/
def mentionsInEntries : List (Expr × Expr) → List Mention
  | [] => []
  | (k, v) :: es => mentions k ++ mentions v ++ mentionsInEntries es

/-- The mentions in the values of fields. -/
def mentionsInFields : List (Text × List Expr) → List Mention
  | [] => []
  | (_, es) :: fs => mentionsInAll es ++ mentionsInFields fs

end

theorem Mention.toOccurrence_under (x : Option Text) (m : Mention) :
    (m.under x).toOccurrence = m.toOccurrence := by
  rw [under]
  split <;> rfl

theorem map_under (x : Option Text) (ms : List Mention) :
    (ms.map (.under x)).map Mention.toOccurrence = ms.map Mention.toOccurrence := by
  rw [List.map_map]
  exact List.map_congr_left fun m _ => m.toOccurrence_under x

theorem map_binders (x : Expr) : (binders x).map Mention.toOccurrence = occurrences x := by
  rw [binders, List.map_map]
  exact List.map_id _

mutual

/-- **The mentions without their roles are the occurrences.** -/
theorem map_mentions : ∀ e : Expr, (mentions e).map Mention.toOccurrence = occurrences e
  | .literal _ | .defective | .name _ | .root _ => rfl
  | .rootCall _ args => congrArg _ (map_mentionsInAll args)
  | .list items => map_mentionsInAll items
  | .map entries => map_mentionsInEntries entries
  | .operation _ operands => map_mentionsInAll operands
  | .choose c a b => by
    simp only [mentions, occurrences, List.map_append, map_mentions c, map_mentions a,
      map_mentions b]
  | .select e _ => map_mentions e
  | .call _ args => map_mentionsInAll args
  | .method e _ args => by
    simp only [mentions, occurrences, List.map_append, map_mentions e, map_mentionsInAll args]
  | .message e fields => by
    simp only [mentions, occurrences, List.map_append, map_mentions e, map_mentionsInFields fields]
  | .has args => map_mentionsInAll args
  | .dyn args => map_mentionsInAll args
  | .comprehension _ range x body => by
    simp only [mentions, occurrences, List.map_append, map_binders, map_under, map_mentions range,
      map_mentions body]
  | .reduce range r x start body => by
    simp only [mentions, occurrences, List.map_append, map_binders, map_under, map_mentions range,
      map_mentions start, map_mentions body]
  | .minimum range args => by
    simp only [mentions, occurrences, List.map_append, map_mentions range, map_mentionsInAll args]
  | .malformed range args => by
    simp only [mentions, occurrences, List.map_append, map_mentions range, map_mentionsInAll args]

theorem map_mentionsInAll : ∀ es : List Expr,
    (mentionsInAll es).map Mention.toOccurrence = occurrencesInAll es
  | [] => rfl
  | e :: es => by
    simp only [mentionsInAll, occurrencesInAll, List.map_append, map_mentions e,
      map_mentionsInAll es]

theorem map_mentionsInEntries : ∀ es : List (Expr × Expr),
    (mentionsInEntries es).map Mention.toOccurrence = occurrencesInEntries es
  | [] => rfl
  | (k, v) :: es => by
    simp only [mentionsInEntries, occurrencesInEntries, List.map_append, map_mentions k,
      map_mentions v, map_mentionsInEntries es]

theorem map_mentionsInFields : ∀ fs : List (Text × List Expr),
    (mentionsInFields fs).map Mention.toOccurrence = occurrencesInFields fs
  | [] => rfl
  | (f, es) :: fs => by
    simp only [mentionsInFields, occurrencesInFields, List.map_append, map_mentionsInAll es,
      map_mentionsInFields fs]

end

theorem mem_occurrences_iff {e : Expr} {o : Occurrence} :
    o ∈ occurrences e ↔ ∃ role, (⟨o, role⟩ : Mention) ∈ mentions e := by
  rw [← map_mentions, List.mem_map]
  constructor
  · rintro ⟨m, hm, rfl⟩
    exact ⟨m.role, hm⟩
  · rintro ⟨role, hm⟩
    exact ⟨_, hm, rfl⟩

/-! ### The names of binders -/

/-- If there is a name, it occurs without arguments. -/
def Names (n? : Option Text) (os : List Occurrence) : Prop :=
  ∀ n, n? = some n → ⟨n, false⟩ ∈ os

namespace Names

variable {n? m? : Option Text} {os ps : List Occurrence}

theorem none : Names .none os := fun _ h => nomatch h

theorem cons (o : Occurrence) (h : Names n? os) : Names n? (o :: os) :=
  fun n hn => List.mem_cons_of_mem o (h n hn)

/-- The last name of two parts is that of the second one, if it has names. -/
theorem append (h : Names n? os) (h' : Names m? ps) : Names (m?.or n?) (os ++ ps) := by
  intro n hn
  obtain hn | ⟨-, hn⟩ := Option.or_eq_some_iff.1 hn
  · exact List.mem_append_right os (h' n hn)
  · exact List.mem_append_left ps (h n hn)

end Names

mutual

/-- **The name that a binder binds occurs in it.** -/
theorem names_lastName? : ∀ e : Expr, Names (lastName? e) (occurrences e)
  | .literal _ | .defective | .root _ => .none
  | .name n => fun _ h => by
    cases h
    exact List.mem_singleton_self _
  | .rootCall _ args => (names_lastOfAll? args).cons _
  | .list items => names_lastOfAll? items
  | .map entries => names_lastOfEntries? entries
  | .operation _ operands => names_lastOfAll? operands
  | .choose c a b => by
    rw [lastName?, Option.or_assoc]
    exact ((names_lastName? c).append (names_lastName? a)).append (names_lastName? b)
  | .select e _ => names_lastName? e
  | .call _ args => names_lastOfAll? args
  | .method e _ args => (names_lastName? e).append (names_lastOfAll? args)
  | .message e fields => (names_lastName? e).append (names_lastOfFields? fields)
  | .has args => names_lastOfAll? args
  | .dyn args => names_lastOfAll? args
  | .comprehension _ range x body => by
    rw [lastName?, Option.or_assoc]
    exact ((names_lastName? range).append (names_lastName? x)).append (names_lastName? body)
  | .reduce range r x start body => by
    simp only [lastName?, Option.or_assoc]
    exact ((((names_lastName? range).append (names_lastName? r)).append
      (names_lastName? x)).append (names_lastName? start)).append (names_lastName? body)
  | .minimum range args => (names_lastName? range).append (names_lastOfAll? args)
  | .malformed range args => (names_lastName? range).append (names_lastOfAll? args)

theorem names_lastOfAll? : ∀ es : List Expr, Names (lastOfAll? es) (occurrencesInAll es)
  | [] => .none
  | e :: es => (names_lastName? e).append (names_lastOfAll? es)

theorem names_lastOfEntries? : ∀ es : List (Expr × Expr),
    Names (lastOfEntries? es) (occurrencesInEntries es)
  | [] => .none
  | (k, v) :: es => by
    rw [lastOfEntries?, Option.or_assoc]
    exact ((names_lastName? k).append (names_lastName? v)).append (names_lastOfEntries? es)

theorem names_lastOfFields? : ∀ fs : List (Text × List Expr),
    Names (lastOfFields? fs) (occurrencesInFields fs)
  | [] => .none
  | (_, es) :: fs => (names_lastOfAll? es).append (names_lastOfFields? fs)

end

/-! ### Bound names -/

/-- What macros bind among some mentions is named in a binder among them. -/
def Scoped (ms : List Mention) : Prop :=
  ∀ m ∈ ms, m.role = .bound → ⟨⟨m.name, false⟩, .binder⟩ ∈ ms

namespace Scoped

variable {ms ns : List Mention}

theorem nil : Scoped [] := fun _ h => nomatch h

/-- A free name needs no binder. -/
theorem cons (o : Occurrence) (h : Scoped ms) : Scoped (⟨o, .free⟩ :: ms) := by
  intro m hm hr
  obtain rfl | hm := List.mem_cons.1 hm
  · cases hr
  · exact List.mem_cons_of_mem _ (h m hm hr)

theorem append (h : Scoped ms) (h' : Scoped ns) : Scoped (ms ++ ns) := by
  intro m hm hr
  obtain hm | hm := List.mem_append.1 hm
  · exact List.mem_append_left ns (h m hm hr)
  · exact List.mem_append_right ms (h' m hm hr)

/-- Mentions in a binder bind nothing. -/
theorem binders (x : Expr) : Scoped (binders x) := by
  intro m hm hr
  obtain ⟨o, -, rfl⟩ := List.mem_map.1 hm
  cases hr

/-- **A macro introduces what it binds:** mentions beside its binder stay scoped under it. -/
theorem under {x : Expr} (h : Scoped (ms ++ ns)) (hx : x.binders ⊆ ms) :
    Scoped (ms ++ ns.map (.under x.lastName?)) := by
  -- a mention in a binder is not free, so it stays what it is
  have hkeep : ∀ o, ⟨o, .binder⟩ ∈ ms ++ ns → ⟨o, .binder⟩ ∈ ms ++ ns.map (.under x.lastName?) := by
    intro o ho
    obtain ho | ho := List.mem_append.1 ho
    · exact List.mem_append_left _ ho
    · exact List.mem_append_right _ (List.mem_map.2 ⟨_, ho, rfl⟩)
  intro m hm hr
  obtain hm | hm := List.mem_append.1 hm
  · exact hkeep _ (h m (List.mem_append_left ns hm) hr)
  · obtain ⟨n, hn, rfl⟩ := List.mem_map.1 hm
    rw [Mention.under] at hr ⊢
    split at hr
    case isTrue hfree =>
      rw [if_pos hfree]
      have hname := names_lastName? x n.name hfree.2
      exact List.mem_append_left _ (hx (List.mem_map_of_mem hname))
    case isFalse hfree =>
      rw [if_neg hfree]
      exact hkeep _ (h n (List.mem_append_right ms hn) hr)

end Scoped

mutual

/-- **What a macro binds in an expression is named in a binder in it.** -/
theorem scoped_mentions : ∀ e : Expr, Scoped (mentions e)
  | .literal _ | .defective => .nil
  | .name _ | .root _ => Scoped.nil.cons _
  | .rootCall _ args => (scoped_mentionsInAll args).cons _
  | .list items => scoped_mentionsInAll items
  | .map entries => scoped_mentionsInEntries entries
  | .operation _ operands => scoped_mentionsInAll operands
  | .choose c a b => ((scoped_mentions c).append (scoped_mentions a)).append (scoped_mentions b)
  | .select e _ => scoped_mentions e
  | .call _ args => scoped_mentionsInAll args
  | .method e _ args => (scoped_mentions e).append (scoped_mentionsInAll args)
  | .message e fields => (scoped_mentions e).append (scoped_mentionsInFields fields)
  | .has args => scoped_mentionsInAll args
  | .dyn args => scoped_mentionsInAll args
  | .comprehension _ range x body => by
    have h := ((scoped_mentions range).append (.binders x)).append (scoped_mentions body)
    exact h.under (List.subset_append_right _ _)
  | .reduce range r x start body => by
    have h := ((((scoped_mentions range).append (.binders r)).append (.binders x)).append
      (scoped_mentions start)).append (scoped_mentions body)
    refine (h.under ?_).under ?_
    · exact List.subset_append_of_subset_left _ (List.subset_append_right _ _)
    · exact List.subset_append_of_subset_left _
        (List.subset_append_of_subset_left _ (List.subset_append_right _ _))
  | .minimum range args => (scoped_mentions range).append (scoped_mentionsInAll args)
  | .malformed range args => (scoped_mentions range).append (scoped_mentionsInAll args)

theorem scoped_mentionsInAll : ∀ es : List Expr, Scoped (mentionsInAll es)
  | [] => .nil
  | e :: es => (scoped_mentions e).append (scoped_mentionsInAll es)

theorem scoped_mentionsInEntries : ∀ es : List (Expr × Expr), Scoped (mentionsInEntries es)
  | [] => .nil
  | (k, v) :: es =>
    ((scoped_mentions k).append (scoped_mentions v)).append (scoped_mentionsInEntries es)

theorem scoped_mentionsInFields : ∀ fs : List (Text × List Expr), Scoped (mentionsInFields fs)
  | [] => .nil
  | (_, es) :: fs => (scoped_mentionsInAll es).append (scoped_mentionsInFields fs)

end

/-! ### Free names -/

/-- What is free under a macro is free in its body and not bound by it. -/
theorem free_mem_map_under {o : Occurrence} {x : Option Text} {ms : List Mention} :
    ⟨o, .free⟩ ∈ ms.map (Mention.under x) ↔ ⟨o, .free⟩ ∈ ms ∧ x ≠ some o.name := by
  rw [List.mem_map]
  constructor
  · rintro ⟨m, hm, he⟩
    rw [Mention.under] at he
    split at he
    case isTrue => cases he
    case isFalse hfree =>
      subst he
      exact ⟨hm, fun hx => hfree ⟨rfl, hx⟩⟩
  · rintro ⟨hm, hx⟩
    exact ⟨_, hm, if_neg fun hfree => hx hfree.2⟩

end Admission.Expr
