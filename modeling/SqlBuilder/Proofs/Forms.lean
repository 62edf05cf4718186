import Mathlib.Tactic.SplitIfs
import SqlBuilder.Proofs.Log
import SqlBuilder.Proofs.Outcome
import SqlBuilder.Section.Text

/-!
# The forms of terms and calls

A property of the parts that are nested in a term holds of the entries of a mapping, too
(`Term.Holds`), and what holds of every operand of a log holds of those that a section is made
from. A common table
expression is given by name and body, or a mapping gives several. The first source of a mutation
is its target. When every call of an `insert` gives its rows as mappings, all of its rows are
mappings, and when every call gives positional values, no row is one.
-/

namespace SqlBuilder

/-- What is nested in the term has a property: the text of a template has `T`, the text of a
sub-query or of a statement `B`, and the condition of a predicate `C`. -/
inductive Term.Holds (T B : Except Error Fragment → Prop)
    (C : Except Error (Option Condition) → Prop) : Term → Prop
  | value (v : Value) : Holds T B C (.value v)
  | default : Holds T B C .default
  | raw (sql : String) : Holds T B C (.raw sql)
  | template {text : Except Error Fragment} : T text → Holds T B C (.template text)
  | query {body : Except Error Fragment} : B body → Holds T B C (.query body)
  | statement {body : Except Error Fragment} : B body → Holds T B C (.statement body)
  | record {r : Record Term} : (∀ e ∈ r.entries, Holds T B C e.2) → Holds T B C (.record r)
  | predicate {c : Except Error (Option Condition)} : C c → Holds T B C (.predicate c)

/-- The members of a JSON object are values, in which nothing is nested. -/
theorem Term.Holds.entries? {T B : Except Error Fragment → Prop}
    {C : Except Error (Option Condition) → Prop} {t : Term} (h : t.Holds T B C) {r : Record Term}
    (hr : t.entries? = some r) : ∀ e ∈ r.entries, e.2.Holds T B C := by
  unfold Term.entries? at hr
  split at hr
  · cases hr
    cases h with
    | record inside => exact inside
  · cases hr
    intro e he
    obtain ⟨member, -, rfl⟩ := List.mem_map.1 he
    exact .value _
  · cases hr

theorem Term.Holds.mono {T T' B B' : Except Error Fragment → Prop}
    {C C' : Except Error (Option Condition) → Prop} {t : Term} (h : t.Holds T B C)
    (template : ∀ text, T text → T' text) (body : ∀ body, B body → B' body)
    (predicate : ∀ c, C c → C' c) : t.Holds T' B' C' := by
  induction h with
  | value v => exact .value v
  | default => exact .default
  | raw sql => exact .raw sql
  | template text => exact .template (template _ text)
  | query inner => exact .query (body _ inner)
  | statement inner => exact .statement (body _ inner)
  | record _ ih => exact .record ih
  | predicate c => exact .predicate (predicate _ c)

/-- The operands of a table or a join. -/
def Source.operands : Source → List Term
  | .table t => [t]
  | .join _ ts => ts

namespace Log

/-- Every operand of the calls has the property. -/
def Every {α : Type} (P : α → Prop) (log : Log α) : Prop :=
  ∀ call ∈ log, ∀ x ∈ call.operands, P x

namespace Every

section

variable {α : Type} {P : α → Prop} {log : Log α} (h : log.Every P)

include h

theorem operandsOf (clause : Clause) : ∀ xs ∈ log.operandsOf clause, ∀ x ∈ xs, P x := by
  intro xs hxs
  obtain ⟨call, hcall, rfl⟩ := List.mem_map.1 hxs
  exact h call (List.mem_of_mem_filter hcall)

theorem allOperands (clause : Clause) : ∀ x ∈ log.allOperands clause, P x := by
  intro x hx
  obtain ⟨xs, hxs, hx⟩ := List.mem_flatten.1 hx
  exact h.operandsOf clause xs hxs x hx

theorem lastOperand (clause : Clause) :
    ∀ x ∈ (log.operandsOf clause).getLast?.bind List.head?, P x := by
  intro x hx
  obtain ⟨xs, hxs, hx⟩ := Option.bind_eq_some_iff.1 hx
  exact h.operandsOf clause xs (List.mem_of_getLast? hxs) x (List.mem_of_head? hx)

end

theorem map {α β : Type} {P : β → Prop} {f : α → β} {log : Log α}
    (h : log.Every fun x => P (f x)) : Every P (log.map (Call.map f)) := by
  refine List.forall_mem_map.2 fun call hcall => ?_
  exact List.forall_mem_map.2 (h call hcall)

/-- Sources are made from the operands of tables and joins. -/
theorem sources {P : Term → Prop} {log : Log Term} (h : log.Every P) :
    ∀ s ∈ Source.ofLog log, ∀ t ∈ s.operands, P t := by
  intro s hs
  obtain ⟨⟨clause, operands⟩, hcall, hs⟩ := List.mem_flatMap.1 hs
  have every : ∀ t ∈ operands, P t := h _ hcall
  cases clause with
  | table =>
    obtain ⟨u, hu, rfl⟩ := List.mem_map.1 hs
    exact List.forall_mem_singleton.2 (every u hu)
  | join kind =>
    rw [List.mem_singleton.1 hs]
    exact every
  | _ => cases hs

end Every

/-- A mapping gives one common table expression for each entry. -/
theorem cteItems_of_entries {t : Term} {r : Record Term} (h : t.entries? = some r) :
    cteItems [t] = r.entries.mapM cteItem := by
  cases t <;> simp only [cteItems, h]

theorem cteItems_of_none {t : Term} (h : t.entries? = none) :
    cteItems [t] = .error (.validation .cteForm) := by
  cases t <;> simp only [cteItems, h]

/-- No form of a common table expression has more than two operands. -/
theorem cteItems_long (t t' t'' : Term) (ts : List Term) :
    cteItems (t :: t' :: t'' :: ts) = .error (.validation .cteForm) := by
  cases t <;> rfl

end Log

/-- The target of a mutation is its first source. -/
theorem Source.ensures_splitTarget (sources : List Source) :
    Ensures (splitTarget sources) fun parts => sources = .table parts.1 :: parts.2 := by
  unfold splitTarget
  split
  · exact .ok rfl
  · exact .error _
  · exact .error _

namespace Insertion

theorem rowForm_of_records {ts : List Term} (h : ∀ t ∈ ts, t.isRecord) :
    rowForm ts = .ok .records := by
  rw [rowForm, if_pos (List.all_eq_true.2 h)]

/-- Operands that are no mappings are values by position, if there are any. -/
theorem rowForm_of_values {ts : List Term} (given : ts ≠ []) (h : ∀ t ∈ ts, t.isRecord = false) :
    rowForm ts = .ok .positional := by
  obtain ⟨t, rest, rfl⟩ := List.exists_cons_of_ne_nil given
  have first := h t List.mem_cons_self
  have any : (t :: rest).any Term.isRecord = false := by simpa using h
  simp [rowForm, first, any]

theorem isRecord_of_rowForm {ts : List Term} (h : rowForm ts = .ok .records) :
    ts.all Term.isRecord := by
  unfold rowForm at h
  split_ifs at h with all any
  · exact all
  · cases h

/-- Where no call is positional, every row is a mapping. -/
theorem isRecord_of_forms {calls : List (List Term)} {forms : List RowForm}
    (h : calls.mapM rowForm = .ok forms) (none : forms.any (· = .positional) = false) :
    calls.flatten.all Term.isRecord := by
  rw [mapM_eq_ok_iff] at h
  induction h with
  | nil => rfl
  | @cons ts form _ _ head _ ih =>
    simp only [List.any_cons, Bool.or_eq_false_iff, decide_eq_false_iff_not] at none
    cases form with
    | positional => exact absurd rfl none.1
    | records =>
      simp only [List.flatten_cons, List.all_append, Bool.and_eq_true]
      exact ⟨isRecord_of_rowForm head, ih none.2⟩

/-- Conversely, a call read by position has operands, and none of them is a mapping. -/
theorem isRecord_of_positional {ts : List Term} (h : rowForm ts = .ok .positional) :
    ts ≠ [] ∧ ∀ t ∈ ts, t.isRecord = false := by
  unfold rowForm at h
  split_ifs at h with all any
  · cases h
  · refine ⟨?_, by simpa using any⟩
    rintro rfl
    exact all rfl

/-- Where every call is positional, no row is a mapping. -/
theorem values_of_forms {calls : List (List Term)} {forms : List RowForm}
    (h : calls.mapM rowForm = .ok forms) (positional : forms.all (· = .positional)) :
    ∀ ts ∈ calls, ∀ t ∈ ts, t.isRecord = false := by
  intro ts hts
  obtain ⟨form, hform, found⟩ := exists_of_mem_right (mapM_eq_ok_iff.1 h).flip hts
  rw [of_decide_eq_true (List.all_eq_true.1 positional form hform)] at found
  exact (isRecord_of_positional found).2

/-- Where every call is positional, the rows are all mappings only if there is no call. -/
theorem eq_nil_of_forms {calls : List (List Term)} {forms : List RowForm}
    (h : calls.mapM rowForm = .ok forms) (positional : forms.all (· = .positional))
    (records : calls.flatten.all Term.isRecord) : calls = [] := by
  rw [mapM_eq_ok_iff] at h
  cases h with
  | nil => rfl
  | @cons ts form _ _ head _ =>
    simp only [List.all_cons, Bool.and_eq_true, decide_eq_true_eq] at positional
    obtain ⟨nonempty, values⟩ := isRecord_of_positional (positional.1 ▸ head)
    obtain ⟨t, ts', rfl⟩ := List.exists_cons_of_ne_nil nonempty
    simp [values t (by simp)] at records

end Insertion

end SqlBuilder
