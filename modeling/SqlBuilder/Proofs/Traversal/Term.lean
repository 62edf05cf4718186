import SqlBuilder.Proofs.Fragment
import SqlBuilder.Proofs.Outcome
import SqlBuilder.Proofs.Traversal.Basic
import SqlBuilder.Term.Condition

/-!
# The parameters of terms

A term stands for a contribution when every way of writing it yields the values that are
contributed at the place where it is written. Each function on terms is followed through once;
which text it writes plays no part.
-/

namespace SqlBuilder

namespace Condition

/-- The parameters of a condition from left to right. -/
def args : Condition → List Value
  | .leaf f => f.args
  | .expr f => f.args
  | .not inner => inner.args
  | .and left right => left.args ++ right.args
  | .or left right => left.args ++ right.args

/-- The parameters of a condition that may be missing. -/
def optionArgs (c : Option Condition) : List Value := (c.map args).getD []

/-- Parentheses have no parameters. -/
theorem args_enclose (parens : Bool) {parts : List Fragment → List Fragment} {vs : List Value}
    (h : ∀ after, (parts after).flatMap Fragment.args = vs ++ after.flatMap Fragment.args)
    (after : List Fragment) :
    (enclose parens parts after).flatMap Fragment.args = vs ++ after.flatMap Fragment.args := by
  cases parens with
  | false => exact h after
  | true => simp [enclose, h]

/-- The parameters of a condition come in front of those that follow it. -/
theorem args_parts (c : Condition) (after : List Fragment) :
    (c.parts after).flatMap Fragment.args = c.args ++ after.flatMap Fragment.args := by
  induction c generalizing after with
  | leaf f => rfl
  | expr f => rfl
  | not inner ih => simpa [parts, args] using args_enclose _ ih after
  | and left right ihLeft ihRight | or left right ihLeft ihRight =>
    simp [parts, args, args_enclose _ ihLeft, args_enclose _ ihRight]

/-- Writing a condition keeps its parameters and their order. -/
@[simp] theorem args_render (c : Condition) : c.render.args = c.args := by
  simp [render, args_parts]

/-- Conditions are joined from left to right, and with them their parameters. -/
theorem optionArgs_combine {op : Condition → Condition → Condition}
    (hop : ∀ c d, (op c d).args = c.args ++ d.args) (cs : List Condition) :
    optionArgs (combine op cs) = cs.flatMap args := by
  have fold (cs : List Condition) (c : Condition) :
      (cs.foldl op c).args = c.args ++ cs.flatMap args := by
    induction cs generalizing c with
    | nil => simp
    | cons d cs ih => simp [ih, hop]
  cases cs with
  | nil => rfl
  | cons c cs => simp [combine, optionArgs, fold]

theorem optionArgs_conjoin (cs : List Condition) :
    optionArgs (conjoin cs) = cs.flatMap args :=
  optionArgs_combine (fun _ _ => rfl) cs

theorem optionArgs_disjoin (cs : List Condition) :
    optionArgs (disjoin cs) = cs.flatMap args :=
  optionArgs_combine (fun _ _ => rfl) cs

/-- Conditions that are missing have no parameters. -/
theorem flatMap_args_filterMap (cs : List (Option Condition)) :
    (cs.filterMap id).flatMap args = cs.flatMap optionArgs := by
  induction cs with
  | nil => rfl
  | cons c cs ih => cases c <;> simpa [optionArgs] using ih

end Condition

/-- The term yields the values that are contributed. -/
inductive Term.Contributes : Term → Contribution → Prop
  | value (v : Value) : Contributes (.value v) (.ofValue v)
  | default : Contributes .default (.ofValues [])
  | raw (sql : String) : Contributes (.raw sql) (.ofValues [])
  | template {x : Except Error Fragment} {vs : List Value} (h : Ensures x fun f => f.args = vs) :
      Contributes (.template x) (.ofValues vs)
  | query {x : Except Error Fragment} {vs : List Value} (h : Ensures x fun f => f.args = vs) :
      Contributes (.query x) (.ofValues vs)
  | statement {x : Except Error Fragment} {vs : List Value} (h : Ensures x fun f => f.args = vs) :
      Contributes (.statement x) (.ofValues vs)
  | record {es : List (String × Term)} {cs : List (String × Contribution)}
      (keys : es.map Prod.fst = cs.map Prod.fst)
      (h : ∀ e c, (e, c) ∈ es.zip cs → Contributes e.2 c.2) :
      Contributes (.record ⟨es⟩) (.ofEntries cs)
  | predicate {x : Except Error (Option Condition)} {vs : List Value}
      (h : Ensures x fun c => Condition.optionArgs c = vs) :
      Contributes (.predicate x) (.ofValues vs)

/-- Entries with the same key whose term yields what is contributed. -/
def EntryContributes (e : String × Term) (c : String × Contribution) : Prop :=
  e.1 = c.1 ∧ e.2.Contributes c.2

/-- The computation gives a fragment with the given parameters. -/
abbrev GivesArgs (x : Except Error Fragment) (vs : List Value) : Prop :=
  Ensures x fun f => f.args = vs

/-- The computation gives a condition with the given parameters, or none without any. -/
abbrev GivesConditionArgs (x : Except Error (Option Condition)) (vs : List Value) : Prop :=
  Ensures x fun c => Condition.optionArgs c = vs

namespace Term.Contributes

variable {t : Term} {c : Contribution}

/-- Where mappings are read, the term is a mapping whose entries contribute, or it contributes
what it contributes as a single operand. -/
theorem entries? (h : t.Contributes c) {place : Place}
    (reads : place = .mapping ∨ place = .item) :
    (∃ r cs, t.entries? = some r ∧ List.Forall₂ EntryContributes r.entries cs ∧
      c.values place = cs.flatMap fun e => e.2.values place.entry) ∨
    (t.entries? = none ∧ c.values place = c.values .operand) := by
  cases h with
  | value v =>
    cases read : v.isRead place with
    | true =>
      obtain ⟨members, rfl⟩ := Value.eq_object_of_isRead reads read
      refine .inl ⟨_, members.entries.map fun m => (m.1, .ofValue (Value.ofJson m.2)), rfl, ?_, ?_⟩
      · rw [Record.map, List.forall₂_map_left_iff, List.forall₂_map_right_iff]
        exact List.forall₂_same.2 fun m _ => ⟨rfl, .value _⟩
      · rw [List.flatMap_map]
        exact Value.parameters_object reads members
    | false =>
      exact .inr ⟨Term.entries?_value reads read, Value.parameters_of_not_isRead read⟩
  | default | raw | template | query | statement | predicate => exact .inr ⟨rfl, rfl⟩
  | record keys h => exact .inl ⟨_, _, rfl, forall₂_entries keys h, rfl⟩

/-- An operand gives one parameter, or those of its SQL. -/
theorem operand (h : t.Contributes c) : GivesArgs t.operand (c.values .operand) := by
  cases h with
  | value v => exact .ok (Fragment.args_ofValue v)
  | default | raw => exact .ok (Fragment.args_ofSql _)
  | template h => exact h
  | query h | statement h => exact h.map fun f hf => (Fragment.args_parenthesized f).trans hf
  | record => exact .error _
  | predicate h =>
    refine h.bind fun condition hc => ?_
    cases condition with
    | some condition =>
      refine .ok ?_
      rw [Fragment.args_parenthesized, Condition.args_render]
      exact hc
    | none => exact .error _

theorem body (h : t.Contributes c) (place : Place) : GivesArgs t.body (c.values place) := by
  cases h with
  | raw => exact .ok (Fragment.args_ofSql _)
  | template h | query h | statement h => exact h
  | value | default | record | predicate => exact .error _

/-- A name has no parameters; any other value is one. -/
theorem source (h : t.Contributes c) : GivesArgs t.source (c.values .alias) := by
  cases h with
  | value v =>
    cases read : v.isRead .alias with
    | true =>
      obtain ⟨name, rfl⟩ := Value.eq_text_of_isRead read
      exact Ensures.map_any fun sql => Fragment.args_ofSql sql
    | false =>
      rw [Term.source_value read]
      exact .ok ((Fragment.args_ofValue v).trans (Value.parameters_of_not_isRead read).symm)
  | default | raw => exact .ok (Fragment.args_ofSql _)
  | template h => exact (Term.Contributes.template h).operand
  | query h => exact (Term.Contributes.query h).operand
  | statement h => exact (Term.Contributes.statement h).operand
  | record => exact .error _
  | predicate h => exact (Term.Contributes.predicate h).operand

theorem aliased {e : String × Term} {c : String × Contribution} (h : EntryContributes e c) :
    GivesArgs (aliased e) (c.2.values .alias) := by
  apply Ensures.bind_any
  intro name
  refine h.2.source.bind fun f hf => .ok ?_
  rw [Fragment.args_push, hf]

/-- A mapping gives the parameters of its sources in the order of its entries. -/
theorem item (h : t.Contributes c) : GivesArgs t.item (c.values .item) := by
  unfold Term.item
  rcases h.entries? (.inr rfl) with ⟨r, cs, hr, entries, hvalues⟩ | ⟨hr, hvalues⟩
  · rw [hr, hvalues]
    have items := Ensures.mapM entries fun _ _ => aliased
    refine items.map fun fs hfs => ?_
    rw [Fragment.args_join, flatMap_eq_of_forall₂ hfs]
    rfl
  · rw [hr, hvalues]
    exact h.operand

theorem list {ts : List Term} {cs : List Contribution} (h : List.Forall₂ Contributes ts cs) :
    GivesArgs (list ts) (cs.flatMap fun c => c.values .item) := by
  have items := Ensures.mapM h fun _ _ => item
  refine items.map fun fs hfs => ?_
  rw [Fragment.args_join, flatMap_eq_of_forall₂ hfs]

theorem equation (config : Config) {e : String × Term} {c : String × Contribution}
    (h : EntryContributes e c) : GivesArgs (config.equation e) (c.2.values .operand) := by
  apply Ensures.bind_any
  intro column
  refine h.2.operand.bind fun f hf => .ok ?_
  rw [Fragment.args_append, Fragment.args_ofSql, hf]
  rfl

/-- The parameters of an entry are those of its operand; the key has none. -/
theorem ofEntry (config : Config) {e : String × Term} {c : String × Contribution}
    (h : EntryContributes e c) :
    GivesConditionArgs (Condition.ofEntry config e) (c.2.values .operand) := by
  have compared : GivesConditionArgs ((config.equation e).map fun f => some (.leaf f))
      (c.2.values .operand) := (equation config h).map fun f hf => hf
  obtain ⟨key, t⟩ := e
  obtain ⟨key', c⟩ := c
  obtain ⟨rfl, h⟩ := h
  cases h with
  | predicate h => exact h
  | default | record => exact .error _
  | value | raw | template | query | statement => exact compared

/-- A mapping gives the parameters of its entries; what else makes up a condition gives its own. -/
theorem ofTerm (config : Config) (h : t.Contributes c) :
    GivesConditionArgs (Condition.ofTerm config t) (c.values .mapping) := by
  unfold Condition.ofTerm
  rcases h.entries? (.inl rfl) with ⟨r, cs, hr, entries, hvalues⟩ | ⟨hr, hvalues⟩
  · rw [hr, hvalues]
    refine (Ensures.mapM entries fun _ _ => ofEntry config).map fun conditions hcs => ?_
    rw [Condition.optionArgs_conjoin, Condition.flatMap_args_filterMap,
      flatMap_eq_of_forall₂ hcs]
    rfl
  · rw [hr]
    cases h with
    | raw => exact .ok (Fragment.args_ofSql _)
    | template h => exact h.map fun f hf => hf
    | query h | statement h =>
      exact h.map fun f hf => (Fragment.args_parenthesized f).trans hf
    | predicate h => exact h
    | value | default | record => exact .error _

variable {ts : List Term} {cs : List Contribution}

theorem ofTerms (config : Config) (h : List.Forall₂ Contributes ts cs) :
    Ensures (Condition.ofTerms config ts) fun conditions =>
      conditions.flatMap Condition.args = cs.flatMap fun c => c.values .mapping := by
  have operands := Ensures.mapM h fun _ _ => ofTerm config
  refine operands.map fun conditions hcs => ?_
  rw [Condition.flatMap_args_filterMap, flatMap_eq_of_forall₂ hcs]

theorem noneOf (config : Config) (h : t.Contributes c) :
    GivesConditionArgs (Condition.noneOf config t) (c.values .mapping) := by
  refine (ofTerm config h).map fun condition hc => ?_
  cases condition <;> exact hc

theorem allOf (config : Config) (h : List.Forall₂ Contributes ts cs) :
    GivesConditionArgs (Condition.allOf config ts) (cs.flatMap fun c => c.values .mapping) :=
  (ofTerms config h).map fun conditions hcs => (Condition.optionArgs_conjoin conditions).trans hcs

theorem anyOf (config : Config) (h : List.Forall₂ Contributes ts cs) :
    GivesConditionArgs (Condition.anyOf config ts) (cs.flatMap fun c => c.values .mapping) :=
  (ofTerms config h).map fun conditions hcs => (Condition.optionArgs_disjoin conditions).trans hcs

/-- The parameters of a template are those of its arguments in the order of the slots. -/
theorem render (parts : List String) (h : List.Forall₂ Contributes ts cs) :
    GivesArgs (Template.render Term.operand ⟨parts, ts⟩)
      (cs.flatMap fun c => c.values .operand) := by
  -- With one part more than arguments every argument is woven in.
  have weave (parts : List String) (fs : List Fragment) (slots : parts.length = fs.length + 1) :
      (Template.weave parts fs).flatMap Fragment.args = fs.flatMap Fragment.args := by
    induction parts generalizing fs with
    | nil => simp at slots
    | cons part parts ih =>
      cases fs with
      | nil =>
        obtain rfl : parts = [] := by simpa using slots
        simp [Template.weave]
      | cons f fs =>
        simp only [Template.weave, List.flatMap_cons, Fragment.args_ofSql, List.nil_append]
        rw [ih fs (by simpa using slots)]
  unfold Template.render
  split
  · rename_i slots
    have operands := Ensures.mapM h fun _ _ => operand
    refine operands.map fun fs hfs => ?_
    have woven : parts.length = fs.length + 1 := by
      rw [hfs.length_eq, ← h.length_eq]
      exact slots
    rw [Fragment.args_concat, weave parts fs woven, flatMap_eq_of_forall₂ hfs]
  · exact .error _

end Term.Contributes

end SqlBuilder
