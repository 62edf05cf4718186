import SqlBuilder.Proofs.Operand
import SqlBuilder.Proofs.Separable.Section

/-!
# Queries that may stand between separators

Whether the term of an operand is separable depends on the SQL that its caller wrote: on raw text,
on the text of a template and on that of an embedded statement. Everything else that an operand
can be is separable as soon as the operands inside of it are (`Operand.separable_term`), and a
query is separable when all of its operands are (`Query.separable_statement`).
-/

namespace SqlBuilder

/-- The operands directly inside of an operand. -/
def Operand.inside : Operand → List Operand
  | .template t => t.args
  | .query q => q.history.flatMap Call.sqlOperands
  | .record r => r.entries.map Prod.snd
  | .predicate (.not x) => [x]
  | .predicate (.all xs) => xs
  | .predicate (.any xs) => xs
  | _ => []

/-- The SQL that the caller wrote for the operand itself may stand between separators. -/
def Operand.SqlSeparable (config : Config) : Operand → Prop
  | .raw sql => (Fragment.ofSql sql).Separable
  | .template t => GivesSeparable (t.text config)
  | .statement s => GivesSeparable s.toFragment
  | _ => True

theorem separable_terms {xs : List Operand} {config : Config}
    (h : ∀ x ∈ xs, (x.term config).Separable) :
    ∀ t ∈ xs.map (Operand.term config), t.Separable := by
  intro t ht
  obtain ⟨x, hx, rfl⟩ := List.mem_map.1 ht
  exact h x hx

/-- The statement of a query with separable operands may stand between separators. -/
theorem Query.separable_statement {q : Query Operand}
    (h : ∀ call ∈ q.history, ∀ x ∈ call.sqlOperands, (x.term q.config).Separable) :
    Ensures q.statement fun s => s.2.Separable := by
  have log : Log.Separable (q.log.map (Call.map (Operand.term q.config))) := by
    intro call hcall
    obtain ⟨original, horiginal, rfl⟩ := List.mem_map.1 hcall
    rw [Call.sqlOperands_map]
    exact separable_terms (h original (List.mem_reverse.1 horiginal))
  rw [statement_eq_map]
  exact log.statement

/-- The term of an operand is separable when the operands inside of it are, under whatever
configuration they are compiled. -/
theorem Operand.separable_term {x : Operand} (config : Config) (sql : x.SqlSeparable config)
    (h : ∀ y ∈ x.inside, ∀ config, (y.term config).Separable) : (x.term config).Separable := by
  match x with
  | .value v => simpa [Operand.term] using .value v
  | .default => simpa [Operand.term] using .default
  | .raw text => simpa [Operand.term] using .raw sql
  | .template t => simpa [Operand.term] using .template sql
  | .query q =>
    rw [term_query]
    have calls : ∀ call ∈ q.history, ∀ x ∈ call.sqlOperands, (x.term q.config).Separable :=
      fun call hcall x hx => h x (List.mem_flatMap.2 ⟨call, hcall, hx⟩) q.config
    exact .query ((Query.separable_statement calls).map fun _ hf => hf)
  | .statement s => simpa [Operand.term] using .statement sql
  | .record ⟨entries⟩ =>
    rw [term_record]
    refine .record fun e he => ?_
    obtain ⟨entry, hentry, rfl⟩ := List.mem_map.1 he
    exact h entry.2 (List.mem_map.2 ⟨entry, hentry, rfl⟩) config
  | .predicate (.not y) =>
    rw [term_not]
    exact .predicate (Term.Separable.noneOf config (h y List.mem_cons_self config))
  | .predicate (.all ys) =>
    rw [term_all]
    exact .predicate (Term.Separable.allOf config (separable_terms fun y hy => h y hy config))
  | .predicate (.any ys) =>
    rw [term_any]
    exact .predicate (Term.Separable.anyOf config (separable_terms fun y hy => h y hy config))

end SqlBuilder
