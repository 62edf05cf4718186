import SqlBuilder.Error

/-!
# The log of calls

A query records its calls in order. The log is only ever read through the calls of some
clauses, so what a log means does not depend on how calls of different clauses interleave.
`Log.statementKind` infers the statement that the calls make up and refuses a log that mixes
statements.
-/

namespace SqlBuilder

/-- One recorded call: the clause it contributes to and its operands. -/
structure Call (α : Type) where
  clause : Clause
  operands : List α

/-- The calls of a query, oldest first. -/
abbrev Log (α : Type) := List (Call α)

namespace Log

variable {α : Type}

/-- The operands of every call of a clause. -/
def operandsOf (log : Log α) (clause : Clause) : List (List α) :=
  (log.filter fun call => call.clause = clause).map Call.operands

/-- The operands of all calls of a clause, one after the other. -/
def allOperands (log : Log α) (clause : Clause) : List α := (log.operandsOf clause).flatten

/-- Whether some call has a clause with the property. -/
def uses (log : Log α) (p : Clause → Bool) : Bool := log.any fun call => p call.clause

/-- The statement that the calls demand by themselves: the one of the first call that demands
any, `select` if none does. -/
def impliedKind (log : Log α) : Except Error StatementKind :=
  match log.filterMap fun call => call.clause.impliedKind? with
  | [] => .ok .select
  | first :: rest =>
    match rest.find? fun kind => kind ≠ first with
    | none => .ok first
    | some second => .error (.conflictingKinds first second)

/-- Refuses calls of clauses that a statement of the kind does not have. -/
def checkClauses (log : Log α) (kind : StatementKind) : Except Error Unit :=
  if kind = .manual && log.uses (fun clause => clause ≠ .manual) then
    .error (.conflictingKinds .manual .select)
  else if kind.needsTarget && log.uses Clause.isSelectOnly then
    .error (.conflictingKinds kind .select)
  else if kind = .insert && log.uses (fun clause => clause = .filter) then
    .error (.conflictingKinds .insert .select)
  else .ok ()

/-- Refuses column and value calls of an `insert` that do not line up. -/
def checkColumns (log : Log α) : Except Error Unit :=
  let columns := (log.operandsOf .columns).length
  let values := (log.operandsOf .rows).length
  if 0 < columns && values = 0 then .error (.arity .columnsWithoutValues)
  else if 1 < columns && columns ≠ values then .error (.arity (.columnCalls columns values))
  else .ok ()

/-- The statement that the calls make up. -/
def statementKind (log : Log α) : Except Error StatementKind := do
  let kind ← log.impliedKind
  log.checkClauses kind
  if kind = .insert then log.checkColumns
  return kind

/-- The first table of the first call that names tables. -/
def target? (log : Log α) : Option α :=
  (log.operandsOf .table).head?.bind List.head?

end Log

end SqlBuilder
