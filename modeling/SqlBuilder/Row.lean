import SqlBuilder.Config
import SqlBuilder.Error
import SqlBuilder.Wire.Decode

/-!
# Result rows

A `Row` holds the undecoded cells of its columns. Columns are found by their exact name, or else
without regard to the case of ASCII letters. The JSON form of a row has one member per column
under the mapped name; where two columns share a name, the later one counts.
-/

namespace SqlBuilder

/-- A column of a result. -/
structure Column where
  name : String
  type : SqlType

/-- A row of a result; a cell without bytes is NULL. -/
structure Row where
  columns : List Column
  cells : List (Option (List UInt8))

namespace Row

variable {α : Type}

/-- Whether two names differ at most in the case of ASCII letters. -/
def sameName (a b : String) : Bool := a.toList.map Char.toLower == b.toList.map Char.toLower

/-- The index of the column of a name. -/
def index? (row : Row) (name : String) : Option Nat :=
  (row.columns.findIdx? fun c => c.name = name).or
    (row.columns.findIdx? fun c => sameName c.name name)

/-- The cell at an index; `none` for NULL. -/
def cell? (row : Row) (decoder : CellDecoder α) (index : Nat) : Except DecodeFault (Option α) :=
  match row.columns[index]?, row.cells[index]? with
  | some column, some cell =>
    if decoder.accepts column.type then
      match cell with
      | none => .ok none
      | some bytes =>
        match decoder.decode column.type bytes with
        | some value => .ok (some value)
        | none => .error (.cell index)
    else .error (.cell index)
  | _, _ => .error (.cell index)

/-- The cell at an index, which must not be NULL. -/
def cell (row : Row) (decoder : CellDecoder α) (index : Nat) : Except DecodeFault α := do
  match ← row.cell? decoder index with
  | some value => return value
  | none => throw (.cell index)

/-- What is read at the index of a column. -/
def named (row : Row) (name : String) (read : Nat → Except DecodeFault α) : Except Error α :=
  match row.index? name with
  | none => .error (.decode name (.missingColumn name))
  | some index => (read index).mapError (.decode name)

/-- The cell of a column, which must not be NULL. -/
def column (row : Row) (decoder : CellDecoder α) (name : String) : Except Error α :=
  row.named name (row.cell decoder)

/-- The cell of a column; `none` for NULL. -/
def column? (row : Row) (decoder : CellDecoder α) (name : String) : Except Error (Option α) :=
  row.named name (row.cell? decoder)

/-- The JSON form of a cell. -/
def cellJson (row : Row) (index : Nat) (column : Column) : Except Error Json :=
  match CellDecoder.toJson? column.type with
  | none => .error (.decode column.name (.unsupportedType column.type))
  | some decoder =>
    ((row.cell? decoder index).map fun value => value.getD .null).mapError (.decode column.name)

/-- The JSON form of a row. -/
def toJson (config : Config) (row : Row) : Except Error (Record Json) := do
  let members ← row.columns.zipIdx.mapM fun (column, index) => do
    return (config.outputKey column.name, ← row.cellJson index column)
  return Record.ofList members

end Row

end SqlBuilder
