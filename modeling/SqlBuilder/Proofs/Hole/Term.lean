import SqlBuilder.Proofs.Hole.Swap
import SqlBuilder.Proofs.Place
import SqlBuilder.Section.Assignment

/-!
# Terms with one parameter for another

Two terms that hold different values in one hole, neither of which is read there. However such a
term is written at its place, the results differ in one parameter.
-/

namespace SqlBuilder

/-- Runs that agree, unless the columns declared in one of them differ from call to call. -/
abbrev Follows {α β : Type} (S : α → β → Prop) : Except Error α → Except Error β → Prop :=
  AgreeUnless (.arity .columnLists) S

/-- The same term, but for the value in a hole. -/
inductive Term.Swaps (v w : Value) : Place → Term → Term → Prop
  | value {place : Place} (left : v.isRead place = false) (right : w.isRead place = false) :
      Swaps v w place (.value v) (.value w)
  | template {place : Place} {x y : Except Error Fragment} (h : Follows (Fragment.Swaps v w) x y) :
      Swaps v w place (.template x) (.template y)
  | query {place : Place} {x y : Except Error Fragment} (h : Follows (Fragment.Swaps v w) x y) :
      Swaps v w place (.query x) (.query y)
  | record {place : Place} {t u : Term} (before : List (String × Term)) (key : String)
      (after : List (String × Term)) (reads : place = .mapping ∨ place = .item)
      (h : Swaps v w place.entry t u) :
      Swaps v w place (.record ⟨before ++ (key, t) :: after⟩)
        (.record ⟨before ++ (key, u) :: after⟩)
  | predicate {place : Place} {x y : Except Error (Option Condition)}
      (h : Follows (Condition.OptionSwaps v w) x y) : Swaps v w place (.predicate x) (.predicate y)

/-- The same key with terms that differ in one parameter. -/
def EntrySwaps (v w : Value) (place : Place) (e e' : String × Term) : Prop :=
  e.1 = e'.1 ∧ e.2.Swaps v w place e'.2

variable {v w : Value} {place : Place} {t u : Term}

namespace Term.Swaps

/-- Where mappings are read, either both terms are mappings that differ in an entry, or neither is
one. -/
theorem entries? (h : t.Swaps v w place u) (reads : place = .mapping ∨ place = .item) :
    (∃ r s, t.entries? = some r ∧ u.entries? = some s ∧
      OneChange (EntrySwaps v w place.entry) r.entries s.entries) ∨
    (t.entries? = none ∧ u.entries? = none ∧ t.Swaps v w .operand u) := by
  cases h with
  | value left right =>
    exact .inr ⟨Term.entries?_value reads left, Term.entries?_value reads right, .value rfl rfl⟩
  | template h => exact .inr ⟨rfl, rfl, .template h⟩
  | query h => exact .inr ⟨rfl, rfl, .query h⟩
  | record before key after _ h =>
    exact .inl ⟨_, _, rfl, rfl, .at_hole before after ⟨rfl, h⟩⟩
  | predicate h => exact .inr ⟨rfl, rfl, .predicate h⟩

theorem isRecord_eq (h : t.Swaps v w place u) : t.isRecord = u.isRecord := by
  cases h <;> rfl

/-- A single operand is no mapping. -/
theorem isRecord_operand (h : t.Swaps v w .operand u) :
    t.isRecord = false ∧ u.isRecord = false := by
  cases h with
  | record _ _ _ reads => exact absurd reads (by decide)
  | _ => exact ⟨rfl, rfl⟩

/-- In the place of an operand neither value is read, so both become parameters. -/
theorem operand (h : t.Swaps v w .operand u) :
    Follows (Fragment.Swaps v w) t.operand u.operand := by
  cases h with
  | value => exact .ok (Fragment.swaps_ofValue v w)
  | template h => exact h
  | query h => exact h.map fun _ _ => .parenthesized
  | record _ _ _ reads => exact absurd reads (by decide)
  | predicate h =>
    apply h.bind
    rintro _ _ ⟨c, d, rfl, rfl, swap⟩
    exact .ok swap.render.parenthesized

/-- No value makes up a body, whichever it is. -/
theorem body (h : t.Swaps v w place u) : Follows (Fragment.Swaps v w) t.body u.body := by
  cases h with
  | template h | query h => exact h
  | value | record | predicate => exact .error _

/-- Neither value is a name here, so both become parameters. -/
theorem source (h : t.Swaps v w .alias u) : Follows (Fragment.Swaps v w) t.source u.source := by
  cases h with
  | value left right =>
    rw [Term.source_value left, Term.source_value right]
    exact .ok (Fragment.swaps_ofValue v w)
  | template h => exact h
  | query h => exact h.map fun _ _ => .parenthesized
  | record _ _ _ reads => exact absurd reads (by decide)
  | predicate h => exact (Term.Swaps.predicate h).operand

theorem aliased {e e' : String × Term} (h : EntrySwaps v w .alias e e') :
    Follows (Fragment.Swaps v w) (aliased e) (Term.aliased e') := by
  unfold Term.aliased
  rw [h.1]
  refine .bind_same fun name => ?_
  exact h.2.source.bind fun f g swap => .ok (swap.push _)

/-- A mapping in the place of an item differs in the source behind one alias. -/
theorem item (h : t.Swaps v w .item u) : Follows (Fragment.Swaps v w) t.item u.item := by
  unfold Term.item
  rcases h.entries? (.inr rfl) with ⟨r, s, hr, hs, entries⟩ | ⟨hr, hs, single⟩
  · rw [hr, hs]
    exact (AgreeUnless.mapM_change entries fun _ _ => aliased).map fun _ _ items => .join items ", "
  · rw [hr, hs]
    exact single.operand

theorem list {ts us : List Term} (h : OneChange (Swaps v w .item) ts us) :
    Follows (Fragment.Swaps v w) (list ts) (Term.list us) :=
  (AgreeUnless.mapM_change h fun _ _ => item).map fun _ _ items => .join items ", "

end Term.Swaps

theorem swaps_equation (config : Config) {e e' : String × Term}
    (h : EntrySwaps v w .operand e e') :
    Follows (Fragment.Swaps v w) (config.equation e) (config.equation e') := by
  unfold Config.equation
  rw [h.1]
  refine .bind_same fun column => ?_
  exact h.2.operand.bind fun f g swap => .ok (swap.prepend _)

namespace Condition

variable (config : Config)

/-- The key is the same, so the entries are both equations or both predicates. -/
theorem swaps_ofEntry {e e' : String × Term} (h : EntrySwaps v w .operand e e') :
    Follows (OptionSwaps v w) (ofEntry config e) (ofEntry config e') := by
  have equation : Follows (OptionSwaps v w) ((config.equation e).map fun f => some (.leaf f))
      ((config.equation e').map fun f => some (.leaf f)) :=
    (swaps_equation config h).map fun f g swap => ⟨_, _, rfl, rfl, .leaf swap⟩
  obtain ⟨key, t⟩ := e
  obtain ⟨key', u⟩ := e'
  obtain ⟨rfl, h⟩ := h
  cases h with
  | predicate h => exact h
  | record _ _ _ reads => exact absurd reads (by decide)
  | value | template | query => exact equation

/-- A mapping that differs in an entry gives conditions that differ in one. -/
theorem swaps_ofTerm {t u : Term} (h : t.Swaps v w .mapping u) :
    Follows (OptionSwaps v w) (ofTerm config t) (ofTerm config u) := by
  unfold ofTerm
  rcases h.entries? (.inl rfl) with ⟨r, s, hr, hs, entries⟩ | ⟨hr, hs, single⟩
  · rw [hr, hs]
    have conditions := AgreeUnless.mapM_change entries fun _ _ => swaps_ofEntry config
    exact conditions.map fun _ _ changed => swaps_conjoin (oneChange_filterMap changed)
  · rw [hr, hs]
    cases single with
    | template text => exact text.map fun f g swap => ⟨_, _, rfl, rfl, .expr swap⟩
    | query body => exact body.map fun f g swap => ⟨_, _, rfl, rfl, .leaf swap.parenthesized⟩
    | predicate condition => exact condition
    | value => exact .error _
    | record => cases hr

theorem swaps_ofTerms {ts us : List Term} (h : OneChange (Term.Swaps v w .mapping) ts us) :
    Follows (OneChange (Swaps v w)) (ofTerms config ts) (ofTerms config us) :=
  (AgreeUnless.mapM_change h fun _ _ => swaps_ofTerm config).map fun _ _ => oneChange_filterMap

theorem swaps_noneOf {t u : Term} (h : t.Swaps v w .mapping u) :
    Follows (OptionSwaps v w) (noneOf config t) (noneOf config u) := by
  refine (swaps_ofTerm config h).map ?_
  rintro _ _ ⟨c, d, rfl, rfl, swap⟩
  exact ⟨_, _, rfl, rfl, .not swap⟩

theorem swaps_allOf {ts us : List Term} (h : OneChange (Term.Swaps v w .mapping) ts us) :
    Follows (OptionSwaps v w) (allOf config ts) (allOf config us) :=
  (swaps_ofTerms config h).map fun _ _ => swaps_conjoin

theorem swaps_anyOf {ts us : List Term} (h : OneChange (Term.Swaps v w .mapping) ts us) :
    Follows (OptionSwaps v w) (anyOf config ts) (anyOf config us) :=
  (swaps_ofTerms config h).map fun _ _ => swaps_disjoin

end Condition

/-- Assignments come from a mapping, of which one entry differs, or from a single term. -/
theorem Assignment.swaps_ofTerm (config : Config) (h : t.Swaps v w .mapping u) :
    Follows (OneChange (Fragment.Swaps v w)) (ofTerm config t) (ofTerm config u) := by
  unfold ofTerm
  rcases h.entries? (.inl rfl) with ⟨r, s, hr, hs, entries⟩ | ⟨hr, hs, single⟩
  · rw [hr, hs]
    exact AgreeUnless.mapM_change entries fun _ _ => swaps_equation config
  · rw [hr, hs]
    exact single.body.map fun _ _ swap => .head [] swap

/-- The slots of a template, if there is one for each argument. -/
theorem oneChange_weave {fs gs : List Fragment} (h : OneChange (Fragment.Swaps v w) fs gs)
    {parts : List String} (enough : parts.length = fs.length + 1) :
    OneChange (Fragment.Swaps v w) (Template.weave parts fs) (Template.weave parts gs) := by
  obtain ⟨before, f, g, after, rfl, rfl, swap⟩ := h
  induction before generalizing parts with
  | nil =>
    obtain ⟨part, parts, rfl⟩ := List.exists_cons_of_length_eq_add_one enough
    exact (OneChange.head _ swap).cons _
  | cons b before ih =>
    obtain ⟨part, parts, rfl⟩ := List.exists_cons_of_length_eq_add_one enough
    exact ((ih (Nat.succ.inj enough)).cons b).cons _

/-- There are as many arguments on both sides, so both fit the template or neither does. -/
theorem swaps_render (parts : List String) {ts us : List Term}
    (h : OneChange (Term.Swaps v w .operand) ts us) :
    Follows (Fragment.Swaps v w) (Template.render Term.operand ⟨parts, ts⟩)
      (Template.render Term.operand ⟨parts, us⟩) := by
  unfold Template.render Template.slots
  simp only [h.length_eq]
  split
  · rename_i enough
    have lengths : Ensures (ts.mapM Term.operand) fun fs => fs.length = ts.length :=
      fun fs hfs => (mapM_eq_ok_iff.1 hfs).length_eq.symm
    have operands := AgreeUnless.mapM_change h fun _ _ => Term.Swaps.operand
    refine (operands.ensuring lengths).map fun fs gs changed => .concat ?_
    exact oneChange_weave changed.2 (by rw [changed.1, h.length_eq, enough])
  · exact .error _

end SqlBuilder
