import SqlBuilder.Proofs.Embedding
import SqlBuilder.Proofs.Separable.Operand

/-!
# Keys cannot smuggle SQL

A plain query holds no SQL from its caller: tables and the like are identifiers, and everything
else is a value, or a mapping, predicate or sub-query of plain operands. The keys of its mappings
are arbitrary strings, and so is what the configuration makes of them. Whatever they are, the
scanner finds the placeholders that the library wrote in the compiled statement, and no others.
-/

namespace SqlBuilder

/-- Operands without SQL from the caller, identifiers apart. -/
inductive Operand.Plain : Operand → Prop
  | value (v : Value) : Plain (.value v)
  | default : Plain .default
  | name {text : String} {ident : Ident} (h : Ident.parse text = .ok ident) : Plain (.raw text)
  | query {q : Query Operand} (h : ∀ call ∈ q.history, ∀ x ∈ call.operands, Plain x) :
      Plain (.query q)
  | record {r : Record Operand} (h : ∀ e ∈ r.entries, Plain e.2) : Plain (.record r)
  | not {x : Operand} (h : Plain x) : Plain (.predicate (.not x))
  | all {xs : List Operand} (h : ∀ x ∈ xs, Plain x) : Plain (.predicate (.all xs))
  | any {xs : List Operand} (h : ∀ x ∈ xs, Plain x) : Plain (.predicate (.any xs))

/-- Every operand of the query is plain. -/
def Query.Plain (q : Query Operand) : Prop :=
  ∀ call ∈ q.history, ∀ x ∈ call.operands, x.Plain

/-- Plain operands have separable terms, under every configuration. -/
theorem Operand.Plain.separable_term {x : Operand} (h : x.Plain) (config : Config) :
    (x.term config).Separable := by
  induction h generalizing config with
  | value v => exact Operand.separable_term config trivial (by simp [Operand.inside])
  | default => exact Operand.separable_term config trivial (by simp [Operand.inside])
  | @name text ident h =>
    have checked : Ident.checked text = .ok text := by
      rw [Ident.checked, h]
      exact congrArg Except.ok (Ident.toSql_of_parse h)
    refine Operand.separable_term config ?_ (by simp [Operand.inside])
    exact Fragment.separable_checked checked
  | query _ ih =>
    refine Operand.separable_term config trivial fun y hy => ?_
    obtain ⟨call, hcall, hy⟩ := List.mem_flatMap.1 hy
    exact ih call hcall y (Call.mem_operands_of_mem_sqlOperands hy)
  | record _ ih =>
    refine Operand.separable_term config trivial fun y hy => ?_
    obtain ⟨entry, hentry, rfl⟩ := List.mem_map.1 hy
    exact ih entry hentry
  | not _ ih =>
    refine Operand.separable_term config trivial fun y hy => ?_
    rw [List.mem_singleton.1 hy]
    exact ih
  | all _ ih => exact Operand.separable_term config trivial ih
  | any _ ih => exact Operand.separable_term config trivial ih

namespace Query.Plain

variable {q : Query Operand}

/-- The text of a plain query is legible. -/
theorem legible (h : q.Plain) : Ensures q.statement fun s => s.2.Legible := by
  have separable : Ensures q.statement fun s => s.2.Separable :=
    Query.separable_statement fun call hcall x hx =>
      (h call hcall x (Call.mem_operands_of_mem_sqlOperands hx)).separable_term q.config
  exact separable.mono fun _ hs => hs.legible

/-- A plain query fails to compile, or gives a statement in which the scanner finds exactly the
placeholders of its arguments, none of them inside of a quote or a comment. It reads back as the
text and the arguments that it was written from, as long as a machine word can count them. -/
theorem placeholders_exact (h : q.Plain) :
    (∃ e, q.compile = .error e) ∨
    ∃ c f, q.compile = .ok c ∧ f.args = c.statement.args ∧ f.toSql = c.statement.text ∧
      f.Legible ∧
      c.statement.placeholderNumbers = List.range' 1 c.statement.args.length ∧
      (c.statement.args.length < Text.wordLimit → c.statement.toFragment = .ok f) := by
  cases hq : q.statement with
  | error e =>
    left
    exact ⟨e, by rw [compile, hq]; rfl⟩
  | ok s =>
    obtain ⟨kind, f⟩ := s
    have legible : f.Legible := h.legible (kind, f) hq
    right
    refine ⟨⟨kind, f.toStatement⟩, f, by rw [compile, hq]; rfl, rfl, rfl, legible, ?_, ?_⟩
    · exact legible.placeholderNumbers
    · exact legible.toFragment (canonical_statement hq)

/-- Sets the name and the note of a user below keys that try to break out. -/
def renameUser (name note : Value) : Query Operand :=
  ((Query.new Config.identity).table "users").set
      (.record ⟨[("\"it's $1 --\"", .value name), ("a$1.\"/*\"", .value note)]⟩)
    |>.returning (.record ⟨[("\"$$id\"", .value (.text "id"))]⟩)

theorem placeholders_exact_renameUser :
    let q := renameUser (.text "Ann") .null
    q.Plain ∧ ∃ c f, q.compile = .ok c ∧ f.args = c.statement.args ∧
      f.toSql = c.statement.text ∧ f.Legible ∧
      c.statement.placeholderNumbers = List.range' 1 c.statement.args.length ∧
      (c.statement.args.length < Text.wordLimit → c.statement.toFragment = .ok f) := by
  intro q
  have values (es : List (String × Value)) :
      (Operand.record ⟨es.map fun e => (e.1, .value e.2)⟩).Plain := by
    refine .record fun e he => ?_
    obtain ⟨entry, -, rfl⟩ := List.mem_map.1 he
    exact .value _
  have plain : q.Plain := by
    intro call hcall x hx
    simp only [q, renameUser, returning, select, set, table, push, new, List.mem_cons,
      List.not_mem_nil, or_false] at hcall
    rcases hcall with rfl | rfl | rfl
    · rw [List.mem_singleton.1 hx]
      exact values [(_, .text "id")]
    · rw [List.mem_singleton.1 hx]
      exact values [(_, .text "Ann"), (_, .null)]
    · rw [List.mem_singleton.1 hx]
      have table : Ident.parse "users" = .ok ⟨[.bare "users"]⟩ := rfl
      exact .name table
  refine ⟨plain, plain.placeholders_exact.resolve_left ?_⟩
  rintro ⟨e, he⟩
  have ok : q.compile.toOption.isSome := by decide +kernel
  rw [he] at ok
  cases ok

end Query.Plain

end SqlBuilder
