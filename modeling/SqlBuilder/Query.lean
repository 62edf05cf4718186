import SqlBuilder.Operand

/-!
# Building queries

Every method returns the query with one more recorded call and leaves the query it is called on
as it was, so a common beginning can be continued in several ways.
-/

namespace SqlBuilder.Query

/-- A query without calls. -/
def new (config : Config) : Query Operand := ⟨config, []⟩

/-- Records one more call. -/
def push (q : Query Operand) (clause : Clause) (operands : List Operand) : Query Operand :=
  { q with history := ⟨clause, operands⟩ :: q.history }

/-- A call goes to the end of the log, whatever was called before. -/
theorem log_push (q : Query Operand) (clause : Clause) (operands : List Operand) :
    (q.push clause operands).log = q.log ++ [⟨clause, operands⟩] := by
  simp [push, log]

/-- A common table expression `alias as (body)`. -/
def cte (q : Query Operand) (name : String) (body : Expr) : Query Operand :=
  q.push .cte [.raw name, body.operand]

/-- One common table expression per entry of a mapping. -/
def cteRecord (q : Query Operand) (ctes : Operand) : Query Operand := q.push .cte [ctes]

/-- A table, sub-query or aliased row; the first one is the target of a mutation. -/
def table (q : Query Operand) (source : Expr) : Query Operand := q.push .table [source.operand]

/-- Several tables in one call. -/
def tables (q : Query Operand) (sources : List Expr) : Query Operand :=
  q.push .table (sources.map Expr.operand)

/-- A joined table with its condition. -/
def join (q : Query Operand) (kind : Join) (target on : Expr) : Query Operand :=
  q.push (.join kind) [target.operand, on.operand]

/-- A cross-joined table. -/
def crossJoin (q : Query Operand) (target : Expr) : Query Operand :=
  q.push (.join .cross) [target.operand]

/-- A condition on rows; separate calls are conjoined. -/
def filter (q : Query Operand) (condition : Operand) : Query Operand :=
  q.push .filter [condition]

/-- Alternative conditions on rows. -/
def filterAny (q : Query Operand) (conditions : List Operand) : Query Operand :=
  q.push .filter conditions

/-- A condition on groups. -/
def having (q : Query Operand) (condition : Operand) : Query Operand :=
  q.push .having [condition]

/-- Alternative conditions on groups. -/
def havingAny (q : Query Operand) (conditions : List Operand) : Query Operand :=
  q.push .having conditions

/-- A column that comes back. -/
def select (q : Query Operand) (column : Expr) : Query Operand := q.push .output [column.operand]

/-- Several columns that come back. -/
def selectColumns (q : Query Operand) (columns : List Expr) : Query Operand :=
  q.push .output (columns.map Expr.operand)

/-- A column that a mutation gives back. -/
def returning (q : Query Operand) (column : Expr) : Query Operand := q.select column

/-- Several columns that a mutation gives back. -/
def returningColumns (q : Query Operand) (columns : List Expr) : Query Operand :=
  q.selectColumns columns

/-- A column to group by. -/
def groupBy (q : Query Operand) (column : Expr) : Query Operand :=
  q.push .grouping [column.operand]

/-- Several columns to group by. -/
def groupByColumns (q : Query Operand) (columns : List Expr) : Query Operand :=
  q.push .grouping (columns.map Expr.operand)

/-- An expression to order by. -/
def orderBy (q : Query Operand) (expr : Expr) : Query Operand := q.push .ordering [expr.operand]

/-- An expression followed by a direction. -/
def directed (expr : Expr) (direction : String) : Operand :=
  .template ⟨["", direction], [expr.operand]⟩

/-- An expression to order by, least first. -/
def orderByAsc (q : Query Operand) (expr : Expr) : Query Operand :=
  q.push .ordering [directed expr " asc"]

/-- An expression to order by, greatest first. -/
def orderByDesc (q : Query Operand) (expr : Expr) : Query Operand :=
  q.push .ordering [directed expr " desc"]

/-- Several expressions to order by. -/
def orderByColumns (q : Query Operand) (items : List Expr) : Query Operand :=
  q.push .ordering (items.map Expr.operand)

/-- The number of rows; the last call counts. -/
def limit (q : Query Operand) (n : Operand) : Query Operand := q.push .limit [n]

/-- The rows to pass over; the last call counts. -/
def offset (q : Query Operand) (n : Operand) : Query Operand := q.push .offset [n]

/-- Assignments of an `update`. -/
def set (q : Query Operand) (assignments : Operand) : Query Operand :=
  q.push .assignment [assignments]

/-- A row to insert: a JSON object is a mapping. -/
def rowOperand : Operand → Operand
  | .value (.json (.object members)) => .record (Record.ofMembers members)
  | operand => operand

/-- One row of an `insert`. -/
def insert (q : Query Operand) (row : Operand) : Query Operand := q.push .rows [rowOperand row]

/-- Several rows of an `insert`. -/
def insertRows (q : Query Operand) (rows : List Operand) : Query Operand :=
  q.push .rows (rows.map rowOperand)

/-- The columns that positional values belong to. -/
def columns (q : Query Operand) (columns : List Expr) : Query Operand :=
  q.push .columns (columns.map Expr.operand)

/-- One row of positional values. -/
def values (q : Query Operand) (row : List Operand) : Query Operand := q.push .rows row

/-- Makes the query a `delete`. -/
def delete (q : Query Operand) : Query Operand := q.push .deletion []

/-- A part of a statement written by hand. -/
def manual (q : Query Operand) (part : Expr) : Query Operand := q.push .manual [part.operand]

/-- The kind of statement that the calls make up. -/
def kind (q : Query Operand) : Except Error StatementKind :=
  Log.statementKind q.log

end SqlBuilder.Query
