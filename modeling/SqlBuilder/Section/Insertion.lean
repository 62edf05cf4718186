import SqlBuilder.Log
import SqlBuilder.Term.Condition

/-!
# Rows to insert

The rows of an `insert` are either mappings or positional values below declared columns.

Mappings may differ in their keys: the columns are those of all rows in the order in which they
first appear, and a row without a column takes `default` there. Of two keys of a row that name
the same column the later one counts.
-/

namespace SqlBuilder.Insertion

/-- How the rows of a call are given. -/
inductive RowForm
  | records
  | positional
  deriving DecidableEq

/-- The form of the rows of a call, which do not mix forms. -/
def rowForm (rows : List Term) : Except Error RowForm :=
  if rows.all Term.isRecord then .ok .records
  else if rows.any Term.isRecord then .error (.arity .mixedRows)
  else .ok .positional

/-- A row with its columns, in the order of the mapping. -/
abbrev Row := List (String × Term)

/-- The rows that mappings stand for. -/
def rowsOf (config : Config) (terms : List Term) : Except Error (List Row) :=
  (terms.filterMap Term.entries?).mapM fun r =>
    r.entries.mapM fun entry => (config.column entry.1).map (·, entry.2)

/-- The columns of all rows. -/
def columnsOf (rows : List Row) : List String :=
  (rows.flatMap fun row => row.map Prod.fst).eraseDups

/-- What a row holds in a column. -/
def cell (row : Row) (column : String) : Except Error Fragment :=
  match row.reverse.find? fun entry => entry.1 = column with
  | some entry => entry.2.operand
  | none => .ok (Fragment.ofSql "default")

/-- Values in parentheses, separated by commas. -/
def tuple (values : List Fragment) : Fragment := (Fragment.join values ", ").parenthesized

/-- The columns and values of rows given as mappings. -/
def ofRows (rows : List Row) : Except Error Fragment :=
  let columns := columnsOf rows
  if rows.isEmpty then .error (.arity .noRows)
  else if columns.isEmpty then
    if rows.length = 1 then .ok (Fragment.ofSql "default values") else .error (.arity .emptyRows)
  else do
    let tuples ← rows.mapM fun row => (columns.mapM (cell row)).map tuple
    return Fragment.ofSql ("(" ++ ", ".intercalate columns ++ ") values ") ++
      Fragment.join tuples ", "

/-- Positional rows while they are read: the declared columns with their number, and the rows
so far, nearest first. -/
structure Positional where
  header : Option (Fragment × Nat)
  tuples : List Fragment

namespace Positional

/-- Declares columns; a second declaration has to agree with the first. -/
def declare (p : Positional) (columns : List Term) : Except Error Positional := do
  let names ← Term.list columns
  match p.header with
  | some (earlier, width) =>
    if earlier != names || width ≠ columns.length then .error (.arity .columnLists)
    else .ok { p with header := some (names, columns.length) }
  | none => .ok { p with header := some (names, columns.length) }

/-- Adds a row, which has as many values as there are columns. -/
def addRow (p : Positional) (values : List Term) : Except Error Positional :=
  match p.header with
  | none => .error (.arity .valuesBeforeColumns)
  | some (_, width) =>
    if values.length ≠ width then .error (.arity (.rowWidth values.length width))
    else (values.mapM Term.operand).map fun fs => { p with tuples := tuple fs :: p.tuples }

/-- Takes up a call of columns or values. -/
def step (p : Positional) (call : Call Term) : Except Error Positional :=
  match call.clause with
  | .columns => p.declare call.operands
  | .rows => p.addRow call.operands
  | _ => .ok p

/-- The columns and values as they are written. -/
def text (p : Positional) : Except Error Fragment :=
  match p.header with
  | none => .error (.arity .noColumns)
  | some (names, _) =>
    if p.tuples.isEmpty then .error (.arity .noRows)
    else
      .ok (names.parenthesized ++ Fragment.ofSql " values " ++
        Fragment.join p.tuples.reverse ", ")

end Positional

/-- The columns and values of rows given by position. -/
def ofPositional (log : Log Term) : Except Error Fragment := do
  let p ← log.foldlM Positional.step ⟨none, []⟩
  p.text

/-- The columns and values of an `insert`. -/
def list (config : Config) (log : Log Term) : Except Error Fragment := do
  let forms ← (log.operandsOf .rows).mapM rowForm
  if forms.all (· = .positional) then ofPositional log
  else if forms.any (· = .positional) || log.uses (fun clause => clause = .columns) then
    .error (.arity .rowsWithColumns)
  else ofRows (← rowsOf config (log.allOperands .rows))

end SqlBuilder.Insertion
