import SqlBuilder.Proofs.Correspondence.Operand

/-!
# Values never reach the text

Two queries that differ only in the values of their parameters compile to the same text, or fail
with the same error, and the arguments are the values where the queries have them. Which argument
comes from which place of the query is expressed with a third query that holds labels instead of
values: the arguments of both statements belong to one list of labels.

Not every value is a parameter. Where mappings are read a JSON object is one, a text in an aliased
row is an identifier, and the declared columns of an `insert` are compared with each other. There
the queries hold the same values.
-/

namespace SqlBuilder

/-- The same query up to the values of parameters, which are related. -/
def Query.Varies (R : Value → Value → Prop) (q q' : Query Operand) : Prop :=
  q.Corresponds (fun _ _ => False) R q'

namespace Query.Varies

variable {R S : Value → Value → Prop} {q q' : Query Operand}

/-- Two runs: the same error, or the same text with related arguments. -/
theorem compile (h : q.Varies R q') : Agree (Compiled.Corresponds R) q.compile q'.compile :=
  Query.Corresponds.compile (fun _ _ _ _ _ _ no => no.elim) h

/-- Let `R` and `S` say which values the labels of a query stand for in two other queries. Either
these fail with the same error, or their statements have the same text, and one list of labels
stands for the arguments of both. The first query may be its own labels, along equality. -/
theorem text_independent {labels : Query Operand} (h : labels.Varies R q)
    (h' : labels.Varies S q') :
    (∃ e, q.compile = .error e ∧ q'.compile = .error e) ∨
    ∃ c c' ls, q.compile = .ok c ∧ q'.compile = .ok c' ∧ c.kind = c'.kind ∧
      c.statement.text = c'.statement.text ∧
      List.Forall₂ R ls c.statement.args ∧ List.Forall₂ S ls c'.statement.args := by
  have run := h.compile
  have run' := h'.compile
  generalize labels.compile = x, q.compile = y, q'.compile = z at run run'
  cases run with
  | error e =>
    cases run'
    exact .inl ⟨e, rfl, rfl⟩
  | @ok c₀ c related =>
    cases run' with
    | @ok _ c' related' =>
      refine .inr ⟨c, c', c₀.statement.args, rfl, rfl, ?_, ?_, related.args, related'.args⟩
      · rw [← related.kind_eq, related'.kind_eq]
      · rw [← related.text_eq, related'.text_eq]

/-- The organisations with a plan. -/
def orgsOn (plan : Value) : Query Operand :=
  ((Query.new Config.default).select "id").table "orgs"
    |>.filter (.template ⟨["plan = ", ""], [.value plan]⟩)

/-- Members with a name, at most `count` of them, from the organisations with a plan. -/
def membersOf (name count plan : Value) : Query Operand :=
  ((Query.new Config.default).table "users").filter
      (.record ⟨[("firstName", .value name), ("orgId", .query (orgsOn plan))]⟩)
    |>.limit (.value count)

/-- Its parameters may be varied. -/
theorem membersOf_varies {name name' count count' plan plan' : Value} (hname : R name name')
    (hcount : R count count') (hplan : R plan plan') :
    (membersOf name count plan).Varies R (membersOf name' count' plan') := by
  have parameter {v w : Value} (related : R v w) :
      Operand.Corresponds (fun _ _ => False) R .operand (.value v) (.value w) :=
    .parameter rfl rfl related
  have orgs : (orgsOn plan).Varies R (orgsOn plan') :=
    (((Query.Corresponds.new Config.default).push .output (.single (.raw "id"))).push .table
      (.single (.raw "orgs"))).push .filter
        (.single (.slots ["plan = ", ""] (.cons (parameter hplan) .nil)))
  have key : (Operand.query (orgsOn plan)).Corresponds (fun _ _ => False) R .operand
      (.query (orgsOn plan')) := orgs.query _
  have entries : Operand.Corresponds (fun _ _ => False) R .mapping
      (.record ⟨[("firstName", .value name), ("orgId", .query (orgsOn plan))]⟩)
      (.record ⟨[("firstName", .value name'), ("orgId", .query (orgsOn plan'))]⟩) :=
    .entries (.cons ⟨rfl, parameter hname⟩ (.cons ⟨rfl, key⟩ .nil))
  exact (((Query.Corresponds.new Config.default).push .table (.single (.raw "users"))).push
    .filter (.single entries)).push .limit (.single (parameter hcount))

/-- The labels are numbers here; a text, NULL and a JSON object stand for them. -/
theorem text_independent_members :
    let R := fun v w => (v, w) ∈ [(Value.int 1, Value.text "Ann"), (.int 2, .int 10),
      (.int 3, .text "free")]
    let S := fun v w => (v, w) ∈ [(Value.int 1, Value.json (.object ⟨[("a", .null)]⟩)),
      (.int 2, .null), (.int 3, .text "$1' --")]
    let q := membersOf (.text "Ann") (.int 10) (.text "free")
    let q' := membersOf (.json (.object ⟨[("a", .null)]⟩)) .null (.text "$1' --")
    (∃ e, q.compile = .error e ∧ q'.compile = .error e) ∨
    ∃ c c' ls, q.compile = .ok c ∧ q'.compile = .ok c' ∧ c.kind = c'.kind ∧
      c.statement.text = c'.statement.text ∧
      List.Forall₂ R ls c.statement.args ∧ List.Forall₂ S ls c'.statement.args :=
  have varies {R : Value → Value → Prop} {name count plan : Value} (hname : R (.int 1) name)
      (hcount : R (.int 2) count) (hplan : R (.int 3) plan) :
      (membersOf (.int 1) (.int 2) (.int 3)).Varies R (membersOf name count plan) :=
    membersOf_varies hname hcount hplan
  text_independent (varies (by simp) (by simp) (by simp)) (varies (by simp) (by simp) (by simp))

end Query.Varies

end SqlBuilder
