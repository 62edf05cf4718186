import SqlBuilder.Compile
import SqlBuilder.Proofs.Log

/-!
# Operands from the inside

Operands contain templates, queries, records and predicates, and these contain operands again.
`Operand.induction` is induction over that nesting, with a hypothesis for every operand that
stands directly inside another one. The equations below give the term of an operand through the
terms of the operands inside it.
-/

namespace SqlBuilder

/-- Induction over operands: a property holds of every operand when it passes from the operands
inside an operand to the operand. -/
@[elab_as_elim]
theorem Operand.induction {motive : Operand → Prop} (value : ∀ v, motive (.value v))
    (default : motive .default) (raw : ∀ sql, motive (.raw sql))
    (template : ∀ parts args, (∀ x ∈ args, motive x) → motive (.template ⟨parts, args⟩))
    (query : ∀ config history, (∀ call ∈ history, ∀ x ∈ call.operands, motive x) →
      motive (.query ⟨config, history⟩))
    (statement : ∀ s, motive (.statement s))
    (record : ∀ entries, (∀ e ∈ entries, motive e.2) → motive (.record ⟨entries⟩))
    (not : ∀ x, motive x → motive (.predicate (.not x)))
    (all : ∀ xs, (∀ x ∈ xs, motive x) → motive (.predicate (.all xs)))
    (any : ∀ xs, (∀ x ∈ xs, motive x) → motive (.predicate (.any xs))) (x : Operand) :
    motive x := by
  refine Operand.rec (motive_1 := motive) (motive_2 := fun t => ∀ x ∈ t.args, motive x)
    (motive_3 := fun q => ∀ call ∈ q.history, ∀ x ∈ call.operands, motive x)
    (motive_4 := fun r => ∀ e ∈ r.entries, motive e.2)
    (motive_5 := fun p => motive (.predicate p))
    (motive_6 := fun xs => ∀ x ∈ xs, motive x)
    (motive_7 := fun calls => ∀ call ∈ calls, ∀ x ∈ call.operands, motive x)
    (motive_8 := fun entries => ∀ e ∈ entries, motive e.2)
    (motive_9 := fun call => ∀ x ∈ call.operands, motive x)
    (motive_10 := fun e => motive e.2)
    value default raw ?template ?query statement ?record (fun _ h => h)
    (fun _ _ h => h) (fun _ _ h => h) (fun _ h => h) not all any
    ?nil ?cons ?nilCalls ?consCalls ?nilEntries ?consEntries (fun _ _ h => h) (fun _ _ h => h) x
  case template => exact fun t h => template t.parts t.args h
  case query => exact fun q h => query q.config q.history h
  case record => exact fun r h => record r.entries h
  case nil | nilCalls | nilEntries => simp
  case cons | consCalls | consEntries =>
    intro head tail ihHead ihTail y hy
    rcases List.mem_cons.1 hy with rfl | hy
    · exact ihHead
    · exact ihTail y hy

variable (config : Config)

attribute [local simp] Operand.term Template.text Record.terms Predicate.condition operandTerms
  entryTerms entryTerm callTerm

/-- The recursion through lists of operands is a map. -/
theorem operandTerms_eq (xs : List Operand) :
    operandTerms config xs = xs.map (Operand.term config) := by
  induction xs with
  | nil => rfl
  | cons x xs ih => simp [ih]

theorem entryTerms_eq (entries : List (String × Operand)) :
    entryTerms config entries = entries.map fun e => (e.1, e.2.term config) := by
  induction entries with
  | nil => rfl
  | cons e rest ih =>
    obtain ⟨key, x⟩ := e
    simp [ih]

theorem callTerm_eq (call : Call Operand) :
    callTerm config call = call.map (Operand.term config) := by
  obtain ⟨clause, operands⟩ := call
  simp [Call.map, operandTerms_eq]

/-- The statement of a query is that of its log with terms for operands. -/
theorem Query.statement_eq_map (q : Query Operand) :
    q.statement = Log.statement q.config (q.log.map (Call.map (Operand.term q.config))) := by
  rw [Query.statement_eq]
  congr 1
  exact List.map_congr_left fun call _ => callTerm_eq q.config call

theorem term_template (parts : List String) (args : List Operand) :
    (Operand.template ⟨parts, args⟩).term config =
      .template (Template.render Term.operand ⟨parts, args.map (Operand.term config)⟩) := by
  simp [operandTerms_eq]

/-- A sub-query stands for its own statement, compiled under its own configuration. -/
theorem term_query (q : Query Operand) :
    (Operand.query q).term config = .query (q.statement.map Prod.snd) := by
  simp

theorem term_statement (s : Statement) :
    (Operand.statement s).term config = .statement s.toFragment := by
  simp

/-- A mapping keeps its keys. They are mapped only where it is written. -/
theorem term_record (entries : List (String × Operand)) :
    (Operand.record ⟨entries⟩).term config =
      .record ⟨entries.map fun e => (e.1, e.2.term config)⟩ := by
  simp [entryTerms_eq]

theorem term_not (x : Operand) :
    (Operand.predicate (.not x)).term config =
      .predicate (Condition.noneOf config (x.term config)) := by
  simp

theorem term_all (xs : List Operand) :
    (Operand.predicate (.all xs)).term config =
      .predicate (Condition.allOf config (xs.map (Operand.term config))) := by
  simp [operandTerms_eq]

theorem term_any (xs : List Operand) :
    (Operand.predicate (.any xs)).term config =
      .predicate (Condition.anyOf config (xs.map (Operand.term config))) := by
  simp [operandTerms_eq]

end SqlBuilder
