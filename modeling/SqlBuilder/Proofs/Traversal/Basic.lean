import SqlBuilder.Operand
import SqlBuilder.Proofs.Log
import SqlBuilder.Proofs.Place
import SqlBuilder.Section.Basic

/-!
# The values of a query in order

`Query.traversal` lists the values of a query in the order in which a reader of the statement
meets them, without writing any SQL. Every operand contributes the values inside it from left to
right. Within a clause the calls are taken in the order of the log, and the kind of the statement
gives the order of the clauses. Only the last limit, the last offset and the last declaration of
columns count, and a row given as a mapping contributes one entry per column.
-/

namespace SqlBuilder

/-- What an operand contributes: its values at each place, and entry by entry if it is a mapping
by itself. -/
structure Contribution where
  values : Place → List Value
  entries? : Option (List (String × List Value))

namespace Contribution

/-- A value, which is a mapping only where mappings are read. -/
def ofValue (v : Value) : Contribution := ⟨fun place => v.parameters place, none⟩

/-- The same values at every place. -/
def ofValues (vs : List Value) : Contribution := ⟨fun _ => vs, none⟩

/-- A mapping: its entries in order. -/
def ofEntries (entries : List (String × Contribution)) : Contribution :=
  ⟨fun place => entries.flatMap fun e => e.2.values place.entry,
    some (entries.map fun e => (e.1, e.2.values .operand))⟩

end Contribution

/-- The argument that a token of a statement stands for. -/
def Statement.tokenValue (s : Statement) : Sql.Token → Option Value
  | .placeholder digits => s.args[Text.digitsValue digits - 1]?
  | .text _ => none

/-- The arguments of the placeholders of a statement, in the order of the text. -/
def Statement.placeholderValues (s : Statement) : List Value :=
  (Sql.tokens s.text).filterMap s.tokenValue

namespace Log

/-- The values of the operands of a call. -/
def callValues (clause : Clause) (operands : List Contribution) : List Value :=
  (operands.mapIdx fun i c => c.values (clause.place i)).flatten

variable (log : Log Contribution)

/-- The values of all calls of a clause. -/
def clauseValues (clause : Clause) : List Value :=
  (log.operandsOf clause).flatMap (callValues clause)

/-- The values of the last call of a clause. -/
def lastCallValues (clause : Clause) : List Value :=
  ((log.operandsOf clause).getLast?.map (callValues clause)).getD []

/-- The values of the operand of the last call of a clause. -/
def lastOperandValues (clause : Clause) : List Value :=
  (((log.operandsOf clause).getLast?.bind List.head?).map fun c => c.values .operand).getD []

/-- The values of the tables and joins that a call names, one list for each of them. -/
def callSourceValues (call : Call Contribution) : List (List Value) :=
  match call.clause with
  | .table => call.operands.map fun c => c.values .item
  | .join kind => [callValues (.join kind) call.operands]
  | _ => []

/-- The values of each table and join in order. -/
def sourceValues : List (List Value) := log.flatMap callSourceValues

/-- The values of the target of a mutation. -/
def targetValues : List Value := log.sourceValues.head?.getD []

/-- The values of the sources beside the target of a mutation. -/
def otherSourceValues : List Value := log.sourceValues.tail.flatten

/-- The values of rows given as mappings, row by row: what each row has in a column is the last
of its entries whose key names the column. -/
def recordRowValues (column : String → String) (rows : List (List (String × List Value))) :
    List Value :=
  let columns := (rows.flatMap fun row => row.map fun e => column e.1).eraseDups
  rows.flatMap fun row => columns.flatMap fun name =>
    ((row.reverse.find? fun e => column e.1 = name).map Prod.snd).getD []

/-- The values of the rows of an `insert`. -/
def rowValues (config : Config) : List Value :=
  let rows := log.allOperands .rows
  if rows.all fun c => c.entries?.isSome then
    recordRowValues config.inputKey (rows.filterMap Contribution.entries?)
  else rows.flatMap fun c => c.values .operand

/-- The values of a log as a statement of a kind. -/
def kindValues (config : Config) : StatementKind → List Value
  | .select =>
    log.clauseValues .cte ++ log.clauseValues .output ++ log.sourceValues.flatten ++
      log.clauseValues .filter ++ log.clauseValues .grouping ++ log.clauseValues .having ++
      log.clauseValues .ordering ++ log.lastOperandValues .limit ++ log.lastOperandValues .offset
  | .insert =>
    log.clauseValues .cte ++ log.targetValues ++ log.lastCallValues .columns ++
      log.rowValues config ++ log.clauseValues .output
  | .update =>
    log.clauseValues .cte ++ log.targetValues ++ log.clauseValues .assignment ++
      log.otherSourceValues ++ log.clauseValues .filter ++ log.clauseValues .output
  | .delete =>
    log.clauseValues .cte ++ log.targetValues ++ log.otherSourceValues ++
      log.clauseValues .filter ++ log.clauseValues .output
  | .manual => log.clauseValues .manual

/-- The values of a log in the order of its statement; a log that makes up none has no values. -/
def traversal (config : Config) : List Value :=
  match log.statementKind with
  | .ok kind => log.kindValues config kind
  | .error _ => []

end Log

mutual

/-- What an operand contributes. -/
def Operand.contribution : Operand → Contribution
  | .value v => .ofValue v
  | .default => .ofValues []
  | .raw _ => .ofValues []
  | .template t => .ofValues t.traversal
  | .query q => .ofValues q.traversal
  | .statement s => .ofValues s.placeholderValues
  | .record r => .ofEntries r.contributions
  | .predicate p => .ofValues p.traversal
termination_by structural operand => operand

/-- The values of a template: those of its arguments in the order of the slots. -/
def Template.traversal : Template Operand → List Value
  | ⟨_, args⟩ => (operandContributions args).flatMap fun c => c.values .operand
termination_by structural template => template

/-- The values of a query in the order of its statement. -/
def Query.traversal : Query Operand → List Value
  | ⟨config, history⟩ => Log.traversal (callContributions history).reverse config
termination_by structural query => query

/-- What the entries of a mapping contribute. -/
def Record.contributions : Record Operand → List (String × Contribution)
  | ⟨entries⟩ => entryContributions entries
termination_by structural record => record

/-- The values of a predicate: those of its operands. -/
def Predicate.traversal : Predicate Operand → List Value
  | .not operand => operand.contribution.values .mapping
  | .all operands => (operandContributions operands).flatMap fun c => c.values .mapping
  | .any operands => (operandContributions operands).flatMap fun c => c.values .mapping
termination_by structural predicate => predicate

/-- What several operands contribute. -/
def operandContributions : List Operand → List Contribution
  | [] => []
  | operand :: rest => operand.contribution :: operandContributions rest
termination_by structural operands => operands

/-- What several entries contribute. -/
def entryContributions : List (String × Operand) → List (String × Contribution)
  | [] => []
  | entry :: rest => entryContribution entry :: entryContributions rest
termination_by structural entries => entries

/-- What an entry contributes. -/
def entryContribution : String × Operand → String × Contribution
  | (key, operand) => (key, operand.contribution)
termination_by structural entry => entry

/-- What the operands of several calls contribute. -/
def callContributions : List (Call Operand) → Log Contribution
  | [] => []
  | call :: rest => callContribution call :: callContributions rest
termination_by structural calls => calls

/-- What the operands of a call contribute. -/
def callContribution : Call Operand → Call Contribution
  | ⟨clause, operands⟩ => ⟨clause, operandContributions operands⟩
termination_by structural call => call

end

theorem operandContributions_eq (xs : List Operand) :
    operandContributions xs = xs.map Operand.contribution := by
  induction xs with
  | nil => rfl
  | cons x xs ih => simp [operandContributions, ih]

theorem entryContributions_eq (entries : List (String × Operand)) :
    entryContributions entries = entries.map fun e => (e.1, e.2.contribution) := by
  induction entries with
  | nil => rfl
  | cons e rest ih =>
    obtain ⟨key, x⟩ := e
    simp [entryContributions, entryContribution, ih]

theorem callContributions_eq (calls : List (Call Operand)) :
    callContributions calls = calls.map (Call.map Operand.contribution) := by
  induction calls with
  | nil => rfl
  | cons call rest ih =>
    obtain ⟨clause, operands⟩ := call
    simp [callContributions, callContribution, Call.map, operandContributions_eq, ih]

/-- The traversal of a query is the one of its log. -/
theorem Query.traversal_eq (q : Query Operand) :
    q.traversal = Log.traversal (q.log.map (Call.map Operand.contribution)) q.config := by
  obtain ⟨config, history⟩ := q
  simp [Query.traversal, callContributions_eq, Query.log]

end SqlBuilder
