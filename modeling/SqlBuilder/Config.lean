import SqlBuilder.Text.Casing

/-!
# Configuration

How keys are mapped on their way into SQL and out of result rows, and how much SQL is logged.
-/

namespace SqlBuilder

/-- The settings of a query. -/
structure Config where
  /-- From the keys of records to column names. -/
  inputKey : String → String
  /-- From the columns of a row to the keys of its JSON form. -/
  outputKey : String → String
  /-- How many bytes of SQL a log event shows; `none` shows everything. -/
  maxLoggedSql : Option Nat

namespace Config

/-- Columns in snake case, keys in camel case, and 200 bytes of SQL in the log. -/
def default : Config := ⟨Text.snakeCaseKey, Text.camelCaseKey, some 200⟩

/-- Keys stay as they are. -/
def identity : Config := { default with inputKey := id, outputKey := id }

instance : Inhabited Config := ⟨default⟩

/-- The text that shows a configuration; mappings have no text of their own. -/
def toText (c : Config) : String :=
  let limit := match c.maxLoggedSql with
    | some n => "Some(" ++ Nat.repr n ++ ")"
    | none => "None"
  "Config \x7b map_input_key: \"<fn>\", map_output_key: \"<fn>\", max_logged_sql: " ++ limit ++
    " \x7d"

end Config

end SqlBuilder
