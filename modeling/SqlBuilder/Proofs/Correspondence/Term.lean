import SqlBuilder.Proofs.Correspondence.Fragment
import SqlBuilder.Proofs.Outcome
import SqlBuilder.Proofs.Place
import SqlBuilder.Term.Condition

/-!
# Terms that correspond

What becomes of a value depends on the place where it stands. So terms correspond along a
relation of values when they have the same shape, hold the same value wherever the value itself
is read, and give rise to related parameters.

A compiled sub-query corresponds to a statement with a corresponding body: no position tells
the two apart.
-/

namespace SqlBuilder

variable {R : Value → Value → Prop} {place : Place}

/-- Terms of the same shape whose parameters are related. -/
inductive Term.Corresponds (R : Value → Value → Prop) : Place → Term → Term → Prop
  | value {place : Place} {v : Value}
      (related : List.Forall₂ R (v.parameters place) (v.parameters place)) :
      Corresponds R place (.value v) (.value v)
  | parameter {place : Place} {v w : Value} (left : v.isRead place = false)
      (right : w.isRead place = false) (related : R v w) :
      Corresponds R place (.value v) (.value w)
  | default {place : Place} : Corresponds R place .default .default
  | raw {place : Place} (sql : String) : Corresponds R place (.raw sql) (.raw sql)
  | template {place : Place} {x y : Except Error Fragment}
      (h : Agree (Fragment.Corresponds R) x y) : Corresponds R place (.template x) (.template y)
  | query {place : Place} {x y : Except Error Fragment}
      (h : Agree (Fragment.Corresponds R) x y) : Corresponds R place (.query x) (.query y)
  | statement {place : Place} {x y : Except Error Fragment}
      (h : Agree (Fragment.Corresponds R) x y) : Corresponds R place (.statement x) (.statement y)
  | frozen {place : Place} {x y : Except Error Fragment}
      (h : Agree (Fragment.Corresponds R) x y) : Corresponds R place (.query x) (.statement y)
  | record {place : Place} {es es' : List (String × Term)}
      (keys : es.map Prod.fst = es'.map Prod.fst)
      (h : ∀ e e', (e, e') ∈ es.zip es' → Corresponds R place.entry e.2 e'.2) :
      Corresponds R place (.record ⟨es⟩) (.record ⟨es'⟩)
  | predicate {place : Place} {x y : Except Error (Option Condition)}
      (h : Agree (Option.Rel (Condition.Corresponds R)) x y) :
      Corresponds R place (.predicate x) (.predicate y)

/-- Entries with the same key and terms that correspond. -/
def EntryCorresponds (R : Value → Value → Prop) (place : Place) (e e' : String × Term) : Prop :=
  e.1 = e'.1 ∧ e.2.Corresponds R place e'.2

namespace Term.Corresponds

variable {t u : Term}

theorem isRecord_eq (h : t.Corresponds R place u) : t.isRecord = u.isRecord := by
  cases h <;> rfl

/-- The members of a JSON object, read as a mapping. -/
theorem forall₂_members {members : List (String × Json)}
    (related : List.Forall₂ R (members.flatMap fun m => (Value.ofJson m.2).parameters place)
      (members.flatMap fun m => (Value.ofJson m.2).parameters place)) :
    List.Forall₂ (EntryCorresponds R place)
      (members.map fun m => (m.1, Term.value (Value.ofJson m.2)))
      (members.map fun m => (m.1, Term.value (Value.ofJson m.2))) := by
  have related := List.forall₂_same.1 related
  refine List.forall₂_same.2 fun e he => ?_
  obtain ⟨m, hm, rfl⟩ := List.mem_map.1 he
  refine ⟨rfl, .value (List.forall₂_same.2 fun v hv => related v ?_)⟩
  exact List.mem_flatMap.2 ⟨m, hm, hv⟩

/-- Where mappings are read, either both terms are the same mapping up to parameters, or neither
is a mapping and both count as single operands. -/
theorem entries? (h : t.Corresponds R place u) (reads : place = .mapping ∨ place = .item) :
    (∃ r s, t.entries? = some r ∧ u.entries? = some s ∧
      List.Forall₂ (EntryCorresponds R place.entry) r.entries s.entries) ∨
    (t.entries? = none ∧ u.entries? = none ∧ t.Corresponds R .operand u) := by
  cases h with
  | @value _ v related =>
    cases read : v.isRead place with
    | true =>
      obtain ⟨members, rfl⟩ := Value.eq_object_of_isRead reads read
      rw [Value.parameters_object reads] at related
      exact .inl ⟨_, _, rfl, rfl, forall₂_members related⟩
    | false =>
      have none := Term.entries?_value reads read
      rw [Value.parameters_of_not_isRead read] at related
      exact .inr ⟨none, none, .parameter rfl rfl (List.forall₂_cons.1 related).1⟩
  | parameter left right related =>
    exact .inr ⟨Term.entries?_value reads left, Term.entries?_value reads right,
      .parameter rfl rfl related⟩
  | default => exact .inr ⟨rfl, rfl, .default⟩
  | raw sql => exact .inr ⟨rfl, rfl, .raw sql⟩
  | template h => exact .inr ⟨rfl, rfl, .template h⟩
  | query h => exact .inr ⟨rfl, rfl, .query h⟩
  | statement h => exact .inr ⟨rfl, rfl, .statement h⟩
  | frozen h => exact .inr ⟨rfl, rfl, .frozen h⟩
  | record keys h => exact .inl ⟨_, _, rfl, rfl, forall₂_entries keys h⟩
  | predicate h => exact .inr ⟨rfl, rfl, .predicate h⟩

/-- In the place of an operand no value is read, so it becomes a parameter on both sides. -/
theorem operand (h : t.Corresponds R .operand u) :
    Agree (Fragment.Corresponds R) t.operand u.operand := by
  cases h with
  | value related => exact .ok (Fragment.corresponds_ofValue (List.forall₂_cons.1 related).1)
  | parameter _ _ related => exact .ok (Fragment.corresponds_ofValue related)
  | default => exact .ok (Fragment.corresponds_ofSql _)
  | raw sql => exact .ok (Fragment.corresponds_ofSql _)
  | template h => exact h
  | query h | statement h | frozen h => exact h.map fun _ _ => .parenthesized
  | record => exact .error _
  | predicate h =>
    apply h.bind
    intro c d related
    cases related with
    | some related => exact .ok related.render.parenthesized
    | none => exact .error _

/-- Only SQL makes up a body. Anything else is refused on both sides. -/
theorem body (h : t.Corresponds R place u) : Agree (Fragment.Corresponds R) t.body u.body := by
  cases h with
  | raw sql => exact .ok (Fragment.corresponds_ofSql _)
  | template h | query h | statement h | frozen h => exact h
  | value | parameter | default | record | predicate => exact .error _

/-- A text in the place of a source is read as a name, and then it is the same on both sides. -/
theorem source (h : t.Corresponds R .alias u) :
    Agree (Fragment.Corresponds R) t.source u.source := by
  cases h with
  | @value _ v related =>
    cases read : v.isRead .alias with
    | true =>
      obtain ⟨name, rfl⟩ := Value.eq_text_of_isRead read
      exact Agree.map_same fun sql => Fragment.corresponds_ofSql sql
    | false =>
      rw [Value.parameters_of_not_isRead read] at related
      rw [Term.source_value read]
      exact .ok (Fragment.corresponds_ofValue (List.forall₂_cons.1 related).1)
  | parameter left right related =>
    rw [Term.source_value left, Term.source_value right]
    exact .ok (Fragment.corresponds_ofValue related)
  | default => exact .ok (Fragment.corresponds_ofSql _)
  | raw sql => exact .ok (Fragment.corresponds_ofSql sql)
  | template h => exact h
  | query h | statement h | frozen h => exact h.map fun _ _ => .parenthesized
  | record => exact .error _
  | predicate h => exact (Term.Corresponds.predicate h).operand

theorem aliased {e e' : String × Term} (h : EntryCorresponds R .alias e e') :
    Agree (Fragment.Corresponds R) (aliased e) (Term.aliased e') := by
  unfold Term.aliased
  rw [h.1]
  apply Agree.bind_same
  intro name
  exact h.2.source.bind fun f g hfg => .ok (hfg.push _)

/-- An item may be a mapping, with the same aliases on both sides. -/
theorem item (h : t.Corresponds R .item u) :
    Agree (Fragment.Corresponds R) t.item u.item := by
  unfold Term.item
  rcases h.entries? (.inr rfl) with ⟨r, s, hr, hs, entries⟩ | ⟨hr, hs, single⟩
  · rw [hr, hs]
    have items := Agree.mapM entries fun _ _ => aliased
    exact items.map fun fs gs hfg => .join hfg ", "
  · rw [hr, hs]
    exact single.operand

theorem list {ts us : List Term} (h : List.Forall₂ (Corresponds R .item) ts us) :
    Agree (Fragment.Corresponds R) (list ts) (Term.list us) := by
  have items := Agree.mapM h fun _ _ => item
  exact items.map fun fs gs hfg => .join hfg ", "

end Term.Corresponds

/-- The column that a key names is the same on both sides. -/
theorem corresponds_equation (config : Config) {e e' : String × Term}
    (h : EntryCorresponds R .operand e e') :
    Agree (Fragment.Corresponds R) (config.equation e) (config.equation e') := by
  unfold Config.equation
  rw [h.1]
  apply Agree.bind_same
  intro column
  exact h.2.operand.bind fun f g hfg => .ok ((Fragment.corresponds_ofSql _).append hfg)

namespace Condition

/-- The outcome of conditions that correspond, or of none on both sides. -/
abbrev OptionCorresponds (R : Value → Value → Prop) :
    Except Error (Option Condition) → Except Error (Option Condition) → Prop :=
  Agree (Option.Rel (Condition.Corresponds R))

/-- Whether an entry is an equation goes by the shape of its operand, which is the same on both
sides. -/
theorem corresponds_ofEntry (config : Config) {e e' : String × Term}
    (h : EntryCorresponds R .operand e e') :
    OptionCorresponds R (ofEntry config e) (ofEntry config e') := by
  have equation : OptionCorresponds R ((config.equation e).map fun f => some (.leaf f))
      ((config.equation e').map fun f => some (.leaf f)) :=
    (corresponds_equation config h).map fun _ _ hfg => .some (.leaf hfg)
  obtain ⟨key, t⟩ := e
  obtain ⟨key', u⟩ := e'
  obtain ⟨rfl, h⟩ := h
  cases h with
  | predicate h => exact h
  | default => exact .error _
  | record => exact .error _
  | value | parameter | raw | template | query | statement | frozen => exact equation

theorem corresponds_filterMap {cs ds : List (Option Condition)}
    (h : List.Forall₂ (Option.Rel (Condition.Corresponds R)) cs ds) :
    List.Forall₂ (Condition.Corresponds R) (cs.filterMap id) (ds.filterMap id) :=
  List.rel_filterMap (fun _ _ hcd => hcd) h

/-- The shape of a term also decides how it makes up a condition. -/
theorem corresponds_ofTerm (config : Config) {t u : Term} (h : t.Corresponds R .mapping u) :
    OptionCorresponds R (ofTerm config t) (ofTerm config u) := by
  unfold ofTerm
  rcases h.entries? (.inl rfl) with ⟨r, s, hr, hs, entries⟩ | ⟨hr, hs, single⟩
  · rw [hr, hs]
    have conditions := Agree.mapM entries fun _ _ => corresponds_ofEntry config
    exact conditions.map fun cs ds hcd => Corresponds.conjoin (corresponds_filterMap hcd)
  · rw [hr, hs]
    cases single with
    | template text => exact text.map fun _ _ hfg => .some (.expr hfg)
    | raw sql => exact .ok (.some (.expr (Fragment.corresponds_ofSql sql)))
    | query body | statement body | frozen body =>
      exact body.map fun _ _ hfg => .some (.leaf hfg.parenthesized)
    | predicate condition => exact condition
    | value | parameter | default | record => exact .error _

theorem corresponds_ofTerms (config : Config) {ts us : List Term}
    (h : List.Forall₂ (Term.Corresponds R .mapping) ts us) :
    Agree (List.Forall₂ (Condition.Corresponds R)) (ofTerms config ts) (ofTerms config us) := by
  have conditions := Agree.mapM h fun _ _ => corresponds_ofTerm config
  exact conditions.map fun cs ds hcd => corresponds_filterMap hcd

/-- There is a condition to negate on both sides or on neither. -/
theorem corresponds_noneOf (config : Config) {t u : Term} (h : t.Corresponds R .mapping u) :
    OptionCorresponds R (noneOf config t) (noneOf config u) := by
  refine (corresponds_ofTerm config h).map fun c d hcd => ?_
  cases hcd with
  | some related => exact .some (.not related)
  | none => exact .none

theorem corresponds_allOf (config : Config) {ts us : List Term}
    (h : List.Forall₂ (Term.Corresponds R .mapping) ts us) :
    OptionCorresponds R (allOf config ts) (allOf config us) :=
  (corresponds_ofTerms config h).map fun _ _ => Corresponds.conjoin

theorem corresponds_anyOf (config : Config) {ts us : List Term}
    (h : List.Forall₂ (Term.Corresponds R .mapping) ts us) :
    OptionCorresponds R (anyOf config ts) (anyOf config us) :=
  (corresponds_ofTerms config h).map fun _ _ => Corresponds.disjoin

end Condition

/-- Templates with the same parts. -/
theorem corresponds_render (parts : List String) {ts us : List Term}
    (h : List.Forall₂ (Term.Corresponds R .operand) ts us) :
    Agree (Fragment.Corresponds R) (Template.render Term.operand ⟨parts, ts⟩)
      (Template.render Term.operand ⟨parts, us⟩) := by
  have weave : ∀ (parts : List String) {fs gs : List Fragment},
      List.Forall₂ (Fragment.Corresponds R) fs gs →
      List.Forall₂ (Fragment.Corresponds R) (Template.weave parts fs)
        (Template.weave parts gs) := by
    intro parts
    induction parts with
    | nil => intro fs gs _; exact .nil
    | cons part parts ih =>
      intro fs gs hfg
      cases hfg with
      | nil => exact .cons (Fragment.corresponds_ofSql part) (ih .nil)
      | cons head tail => exact .cons (Fragment.corresponds_ofSql part) (.cons head (ih tail))
  unfold Template.render Template.slots
  simp only [h.length_eq]
  split
  · have operands := Agree.mapM h fun _ _ => Term.Corresponds.operand
    exact operands.map fun fs gs hfg => .concat (weave _ hfg)
  · exact .error _

end SqlBuilder
