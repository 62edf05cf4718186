import SqlBuilder.Proofs.Omission
import SqlBuilder.Proofs.Refusal

/-!
# Mutations without a target

A mutation changes the first table that its calls name, and is refused if they name none. The check
reads the first call that names tables, so an empty list of tables in front hides those of later
calls (`Log.Hides`, `Query.target_hidden`), although the sections of the statement would find them.
Apart from that the check and the sections agree, and a query with a target is refused for the lack
of one only if a query inside of it lacks its own (`Query.missing_target`).
-/

namespace SqlBuilder

namespace Log

variable {α : Type}

/-- An empty list of tables comes first, and some call behind it names a table. -/
def Hides (log : Log α) : Prop :=
  (log.operandsOf .table).head? = some [] ∧ log.allOperands .table ≠ []

/-- The check finds no target if no call names a table, or if the first one hides the others. -/
theorem target?_eq_none_iff (log : Log α) :
    log.target? = none ↔ log.allOperands .table = [] ∨ log.Hides := by
  rw [target?, Hides, allOperands]
  cases log.operandsOf .table with
  | nil => simp
  | cons tables others =>
    cases tables with
    | nil =>
      refine iff_of_true rfl ?_
      by_cases unnamed : ([] :: others).flatten = []
      · exact .inl unnamed
      · exact .inr ⟨rfl, unnamed⟩
    | cons table tables => simp

/-- The target that the check finds is the first table of all. -/
theorem head?_of_target? {log : Log α} {table : α} (h : log.target? = some table) :
    (log.allOperands .table).head? = some table := by
  rw [target?] at h
  rw [allOperands]
  cases hcalls : log.operandsOf .table with
  | nil =>
    rw [hcalls] at h
    cases h
  | cons tables others =>
    rw [hcalls] at h
    cases tables with
    | nil => cases h
    | cons first tables => exact h

/-- The sections have the same target, unless a join stands in front of it. -/
theorem splitTarget_of_target? {log : Log Term} {table : Term} (h : log.target? = some table) :
    (∃ others, Source.splitTarget (Source.ofLog log) = .ok (table, others)) ∨
      Source.splitTarget (Source.ofLog log) = .error (.validation .joinWithoutSource) := by
  induction log with
  | nil => cases h
  | cons call log ih =>
    obtain ⟨clause, operands⟩ := call
    cases clause with
    | table =>
      cases operands with
      | nil => cases h
      | cons first operands =>
        cases h
        exact .inl ⟨_, rfl⟩
    | join kind => exact .inr rfl
    | _ => exact ih h

end Log

namespace Query

/-- The query stands somewhere inside of another one. -/
def Contains (q p : Query Operand) : Prop := ∃ x ∈ (Operand.query q).children, x.Encloses p

/-- A mutation is refused for the lack of a target if no call names a table, or if an empty list of
tables comes first. Otherwise its target is the first table, which the sections find as well unless
a join stands in front of it, and a target can only be missing in a query inside. -/
theorem missing_target {q : Query Operand} {kind : StatementKind} (h : q.kind = .ok kind)
    (mutation : kind.needsTarget) :
    let untargeted := q.log.allOperands .table = [] ∨ q.log.Hides
    (untargeted → q.compile = .error (.missingTarget kind)) ∧
    (¬ untargeted → ∃ table, (q.log.allOperands .table).head? = some table ∧
      ((∃ others, Source.splitTarget (Source.ofLog q.terms) =
          .ok (table.term q.config, others)) ∨
        Source.splitTarget (Source.ofLog q.terms) = .error (.validation .joinWithoutSource))) ∧
    (¬ untargeted → ∀ other, q.compile = .error (.missingTarget other) →
      ∃ p, q.Contains p ∧ p.Untargeted other) := by
  intro untargeted
  have check := q.log.target?_eq_none_iff
  refine ⟨fun bare => ?_, fun named => ?_, fun named other hother => ?_⟩
  · have lacking : q.terms.target? = none := by
      rw [terms, Log.target?_map, check.2 bare]
      rfl
    have mutates : q.terms.statementKind = .ok kind := q.kind_eq.trans h
    rw [compile, statement_eq_map, ← terms, Log.statement, mutates]
    simp only [bind, Except.bind, mutation, lacking, Option.isNone_none, Bool.and_self, if_true]
    rfl
  · obtain ⟨table, htable⟩ := Option.ne_none_iff_exists'.1 fun none => named (check.1 none)
    refine ⟨table, Log.head?_of_target? htable, Log.splitTarget_of_target? ?_⟩
    rw [terms, Log.target?_map, htable]
    rfl
  · cases q.raises_compile _ hother with
    | fault own => cases own
    | @untargeted p _ inside lacking =>
      cases inside with
      | query => exact absurd (check.1 lacking.2.2) named
      | inside hx inside => exact ⟨p, ⟨_, hx, inside⟩, lacking⟩

/-- A `delete` without a target is refused by itself, and one with a target for what is inside. -/
theorem missing_target_delete :
    let inner := (Query.new Config.default).delete
    let q := ((Query.new Config.default).table "orders").delete.filter (.query inner)
    inner.kind = .ok .delete ∧ inner.log.allOperands .table = [] ∧
      inner.compile = .error (.missingTarget .delete) ∧
    q.kind = .ok .delete ∧ StatementKind.delete.needsTarget ∧
      ¬ (q.log.allOperands .table = [] ∨ q.log.Hides) ∧
      q.compile = .error (.missingTarget .delete) ∧
      ∃ p, q.Contains p ∧ p.Untargeted .delete := by
  intro inner q
  have named : ¬ (q.log.allOperands .table = [] ∨ q.log.Hides) := by
    rintro (unnamed | hides)
    · cases unnamed
    · cases hides.1
  have refused : q.compile = .error (.missingTarget .delete) := rfl
  have mutation : StatementKind.delete.needsTarget := rfl
  have kind : q.kind = .ok .delete := rfl
  have kind' : inner.kind = .ok .delete := rfl
  exact ⟨kind', rfl, (missing_target kind' mutation).1 (.inl rfl), kind, mutation, named, refused,
    (missing_target kind mutation).2.2 named .delete refused⟩

/-- A table behind an empty list of tables is the target for the sections, but not for the check. -/
theorem target_hidden :
    let q := (((Query.new Config.default).tables []).table "t").delete
    q.kind = .ok .delete ∧ q.log.allOperands .table = [.raw "t"] ∧
      Source.splitTarget (Source.ofLog q.terms) = .ok (.raw "t", []) ∧
      q.compile = .error (.missingTarget .delete) :=
  ⟨rfl, rfl, rfl, rfl⟩

end Query

end SqlBuilder
