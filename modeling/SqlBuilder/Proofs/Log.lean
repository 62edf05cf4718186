import Mathlib.Data.List.Forall2
import SqlBuilder.Log

/-!
# Logs and their clauses

The kind of a statement is inferred from the clauses of the calls alone, whatever their operands
are, so it may be read off any view of the log that keeps the clauses.
-/

namespace SqlBuilder

variable {α β : Type}

/-- A call with its operands changed. -/
def Call.map (f : α → β) (call : Call α) : Call β := ⟨call.clause, call.operands.map f⟩

namespace Call

/-- The operands of a call that are written as SQL or as parameters: all of them, but for the
name of a common table expression. -/
def sqlOperands (call : Call α) : List α :=
  match call.clause, call.operands with
  | .cte, [_, body] => [body]
  | _, operands => operands

/-- Only common table expressions have operands that are no SQL. -/
theorem sqlOperands_of_ne {call : Call α} (h : call.clause ≠ .cte) :
    call.sqlOperands = call.operands := by
  unfold sqlOperands
  split
  · contradiction
  · rfl

theorem mem_operands_of_mem_sqlOperands {call : Call α} {x : α} (h : x ∈ call.sqlOperands) :
    x ∈ call.operands := by
  unfold sqlOperands at h
  split at h
  · rename_i operands
    rw [operands]
    exact List.mem_cons_of_mem _ h
  · exact h

theorem sqlOperands_map (f : α → β) (call : Call α) :
    (call.map f).sqlOperands = call.sqlOperands.map f := by
  by_cases h : call.clause = .cte
  · obtain ⟨clause, operands⟩ := call
    obtain rfl : clause = .cte := h
    match operands with
    | [] => rfl
    | [_] => rfl
    | [_, _] => rfl
    | _ :: _ :: _ :: _ => rfl
  · have other : (call.map f).clause ≠ .cte := h
    rw [sqlOperands_of_ne h, sqlOperands_of_ne other]
    rfl

end Call

namespace Log

/-- Which clauses are used can be seen from the clauses alone. -/
theorem uses_eq (log : Log α) (p : Clause → Bool) : log.uses p = (log.map Call.clause).any p := by
  simp [uses, List.any_map, Function.comp_def]

/-- So can the number of calls of a clause. -/
theorem length_operandsOf (log : Log α) (clause : Clause) :
    (log.operandsOf clause).length = (log.map Call.clause).count clause := by
  rw [operandsOf, List.length_map, ← List.countP_eq_length_filter, List.count, List.countP_map]
  rfl

theorem operandsOf_append (log log' : Log α) (clause : Clause) :
    operandsOf (log ++ log') clause = log.operandsOf clause ++ log'.operandsOf clause := by
  simp [operandsOf]

theorem operandsOf_map (f : α → β) (log : Log α) (clause : Clause) :
    operandsOf (log.map (Call.map f)) clause = (log.operandsOf clause).map (List.map f) := by
  rw [operandsOf, operandsOf, List.filter_map, List.map_map, List.map_map]
  rfl

theorem filterMap_impliedKind? (log : Log α) :
    (log.filterMap fun call => call.clause.impliedKind?) =
      (log.map Call.clause).filterMap Clause.impliedKind? := by
  rw [List.filterMap_map]
  rfl

/-- Logs with the same clauses make up the same kind of statement, or fail alike. -/
theorem statementKind_eq {log : Log α} {log' : Log β}
    (h : log.map Call.clause = log'.map Call.clause) :
    log.statementKind = log'.statementKind := by
  have implied : log.impliedKind = log'.impliedKind := by
    simp only [impliedKind, filterMap_impliedKind?, h]
  have clauses : ∀ kind, log.checkClauses kind = log'.checkClauses kind := by
    intro kind
    simp only [checkClauses, uses_eq, h]
  have columns : log.checkColumns = log'.checkColumns := by
    simp only [checkColumns, length_operandsOf, h]
  simp only [statementKind, implied, clauses, columns]

end Log

end SqlBuilder
