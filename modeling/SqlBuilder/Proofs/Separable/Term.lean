import SqlBuilder.Proofs.Chains
import SqlBuilder.Proofs.Neat
import SqlBuilder.Proofs.Outcome
import SqlBuilder.Term.Condition

/-!
# Terms that may stand between separators

A separable term is a value, `default`, SQL that may stand between separators, or put together
from separable terms. Whatever the keys in it are, each function on separable terms fails or
writes a part that may stand between separators, because keys only reach the text as identifiers.
-/

namespace SqlBuilder

namespace Condition

/-- Every comparison of the condition may stand between separators. -/
def Separable : Condition → Prop
  | .leaf f => f.Separable
  | .expr f => f.Separable
  | .not inner => inner.Separable
  | .and left right => left.Separable ∧ right.Separable
  | .or left right => left.Separable ∧ right.Separable

/-- The fragment of a condition, between parentheses on demand. -/
def enclosed (parent : Connective) (c : Condition) : Fragment :=
  Fragment.concat (enclose (c.needsParens parent) c.parts [])

/-- What may stand between separators may do so in parentheses as well. -/
theorem separable_enclosed {c : Condition} (h : c.render.Separable) (parent : Connective) :
    (c.enclosed parent).Separable := by
  unfold enclosed enclose
  split
  · refine h.parenthesized.of_symbols ?_
    have parts := c.parts_append [] [Fragment.ofSql ")"]
    rw [List.nil_append] at parts
    simp [parts, render]
  · exact h

/-- The parentheses around a part close in front of what follows it. -/
theorem symbols_enclose (c : Condition) (parent : Connective) (after : List Fragment) :
    (enclose (c.needsParens parent) c.parts after).flatMap Fragment.symbols =
      (c.enclosed parent).symbols ++ after.flatMap Fragment.symbols := by
  have split := enclose_append (c.needsParens parent) c.parts_append [] after
  rw [List.nil_append] at split
  rw [split, List.flatMap_append, enclosed, Fragment.symbols_concat]

/-- A condition may stand between separators when its comparisons may. -/
theorem Separable.render {c : Condition} (h : c.Separable) : c.render.Separable := by
  induction c with
  | leaf f => exact Fragment.Separable.of_symbols (f := f) h (by simp [Condition.render, parts])
  | expr f => exact Fragment.Separable.of_symbols (f := f) h (by simp [Condition.render, parts])
  | not inner ih =>
    refine ((separable_enclosed (ih h) .not).headed "not" (by decide)).of_symbols ?_
    simp [Condition.render, parts, symbols_enclose]
  | and left right ihLeft ihRight =>
    refine ((separable_enclosed (ihLeft h.1) .and).around " and " (by decide)
      (separable_enclosed (ihRight h.2) .and)).of_symbols ?_
    simp [Condition.render, parts, symbols_enclose]
  | or left right ihLeft ihRight =>
    refine ((separable_enclosed (ihLeft h.1) .or).around " or " (by decide)
      (separable_enclosed (ihRight h.2) .or)).of_symbols ?_
    simp [Condition.render, parts, symbols_enclose]

/-- Joining conditions brings in no comparison of its own. -/
theorem separable_conjoin {cs : List Condition} (h : ∀ c ∈ cs, c.Separable) :
    ∀ c ∈ conjoin cs, c.Separable :=
  forall_combine (fun _ _ hc hd => And.intro hc hd) h

theorem separable_disjoin {cs : List Condition} (h : ∀ c ∈ cs, c.Separable) :
    ∀ c ∈ disjoin cs, c.Separable :=
  forall_combine (fun _ _ hc hd => And.intro hc hd) h

end Condition

/-- The computation gives a fragment that may stand between separators. -/
abbrev GivesSeparable (x : Except Error Fragment) : Prop := Ensures x Fragment.Separable

/-- The computation gives a condition whose comparisons may stand between separators, or none. -/
abbrev GivesSeparableCondition (x : Except Error (Option Condition)) : Prop :=
  Ensures x fun c => ∀ d ∈ c, d.Separable

/-- Terms whose text may stand between separators. -/
inductive Term.Separable : Term → Prop
  | value (v : Value) : Separable (.value v)
  | default : Separable .default
  | raw {sql : String} (h : (Fragment.ofSql sql).Separable) : Separable (.raw sql)
  | template {x : Except Error Fragment} (h : GivesSeparable x) : Separable (.template x)
  | query {x : Except Error Fragment} (h : GivesSeparable x) : Separable (.query x)
  | statement {x : Except Error Fragment} (h : GivesSeparable x) : Separable (.statement x)
  | record {es : List (String × Term)} (h : ∀ e ∈ es, Separable e.2) : Separable (.record ⟨es⟩)
  | predicate {x : Except Error (Option Condition)} (h : GivesSeparableCondition x) :
      Separable (.predicate x)

/-- What is written for a key has been checked to be an identifier. -/
theorem ensures_checked (text : String) :
    Ensures (Ident.checked text) fun name => Ident.checked text = .ok name :=
  fun _ h => h

namespace Term.Separable

variable {t : Term}

/-- The members of an object are values, and these may stand anywhere. -/
theorem entries? (h : t.Separable) {r : Record Term} (hr : t.entries? = some r) :
    ∀ e ∈ r.entries, e.2.Separable := by
  cases h with
  | value v =>
    unfold Term.entries? at hr
    split at hr
    · contradiction
    · cases hr
      intro e he
      obtain ⟨m, -, rfl⟩ := List.mem_map.1 he
      exact .value _
    · cases hr
  | default | raw | template | query | statement | predicate => cases hr
  | record h =>
    cases hr
    exact h

/-- Queries and predicates come in parentheses; other SQL stands as it was given. -/
theorem operand (h : t.Separable) : GivesSeparable t.operand := by
  cases h with
  | value v => exact .ok (Fragment.separable_ofValue v)
  | default => exact .ok (Fragment.separable_ofSql (by decide))
  | raw h => exact .ok h
  | template h => exact h
  | query h | statement h => exact h.map fun _ hf => hf.parenthesized
  | record => exact .error _
  | predicate h =>
    refine h.bind fun c hc => ?_
    cases c with
    | some c => exact .ok (hc c rfl).render.parenthesized
    | none => exact .error _

theorem body (h : t.Separable) : GivesSeparable t.body := by
  cases h with
  | raw h => exact .ok h
  | template h | query h | statement h => exact h
  | value | default | record | predicate => exact .error _

/-- A text in the place of a source is a name, and checked to be one. -/
theorem source (h : t.Separable) : GivesSeparable t.source := by
  unfold Term.source
  split
  · rename_i name
    exact (ensures_checked name).map fun _ hname => Fragment.separable_checked hname
  · exact h.operand

/-- Source and alias are kept apart by ` as `. -/
theorem aliased {e : String × Term} (h : e.2.Separable) : GivesSeparable (aliased e) := by
  refine (ensures_checked e.1).bind fun name hname => ?_
  refine h.source.bind fun f hf => .ok ?_
  exact hf.push_checked " as " (by decide) hname

theorem item (h : t.Separable) : GivesSeparable t.item := by
  unfold Term.item
  split
  · rename_i r hr
    have items := Ensures.mapM_forall fun e he => aliased (h.entries? hr e he)
    exact items.map fun fs hfs => .join ", " (by decide) hfs
  · exact h.operand

theorem list {ts : List Term} (h : ∀ t ∈ ts, t.Separable) : GivesSeparable (list ts) := by
  have items := Ensures.mapM_forall fun t ht => (h t ht).item
  exact items.map fun fs hfs => .join ", " (by decide) hfs

/-- The key of an equation is checked, whatever it was before. -/
theorem equation (config : Config) {e : String × Term} (h : e.2.Separable) :
    GivesSeparable (config.equation e) := by
  refine (ensures_checked (config.inputKey e.1)).bind fun column hcolumn => ?_
  refine h.operand.bind fun f hf => .ok ?_
  exact hf.checked_append hcolumn " = " (by decide)

/-- An entry is an equation unless its operand is a predicate. -/
theorem ofEntry (config : Config) {e : String × Term} (h : e.2.Separable) :
    GivesSeparableCondition (Condition.ofEntry config e) := by
  have compared : GivesSeparableCondition ((config.equation e).map fun f => some (.leaf f)) := by
    refine (equation config h).map fun f hf c hc => ?_
    cases hc
    exact hf
  obtain ⟨key, t⟩ := e
  cases h with
  | predicate h => exact h
  | default | record => exact .error _
  | value | raw | template | query | statement => exact compared

/-- A mapping is the conjunction of its entries; what else makes a condition is SQL or a predicate.
-/
theorem ofTerm (config : Config) (h : t.Separable) :
    GivesSeparableCondition (Condition.ofTerm config t) := by
  unfold Condition.ofTerm
  split
  · rename_i r hr
    have conditions := Ensures.mapM_forall fun e he => ofEntry config (h.entries? hr e he)
    refine conditions.map fun cs hcs => ?_
    exact Condition.separable_conjoin (Condition.forall_filterMap hcs)
  · cases h with
    | raw h =>
      refine .ok fun c hc => ?_
      cases hc
      exact h
    | template h =>
      refine h.map fun f hf c hc => ?_
      cases hc
      exact hf
    | query h | statement h =>
      refine h.map fun f hf c hc => ?_
      cases hc
      exact hf.parenthesized
    | predicate h => exact h
    | value | default | record => exact .error _

variable {ts : List Term}

theorem ofTerms (config : Config) (h : ∀ t ∈ ts, t.Separable) :
    Ensures (Condition.ofTerms config ts) fun cs => ∀ c ∈ cs, c.Separable := by
  have conditions := Ensures.mapM_forall fun t ht => (h t ht).ofTerm config
  exact conditions.map fun cs hcs => Condition.forall_filterMap hcs

theorem noneOf (config : Config) (h : t.Separable) :
    GivesSeparableCondition (Condition.noneOf config t) := by
  refine (h.ofTerm config).map fun c hc d hd => ?_
  cases c with
  | none => cases hd
  | some c =>
    cases hd
    exact hc c rfl

theorem allOf (config : Config) (h : ∀ t ∈ ts, t.Separable) :
    GivesSeparableCondition (Condition.allOf config ts) :=
  (ofTerms config h).map fun _ hcs => Condition.separable_conjoin hcs

theorem anyOf (config : Config) (h : ∀ t ∈ ts, t.Separable) :
    GivesSeparableCondition (Condition.anyOf config ts) :=
  (ofTerms config h).map fun _ hcs => Condition.separable_disjoin hcs

end Term.Separable

end SqlBuilder
