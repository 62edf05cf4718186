import SqlBuilder.Config
import SqlBuilder.Log
import SqlBuilder.Statement
import SqlBuilder.Template

/-!
# Operands

An `Operand` is anything a query can be given. A plain value always becomes a parameter; only
text marked as raw, and the text of templates and statements, is written into SQL. `Expr` is
the narrower type of positions that hold SQL by nature, such as tables and columns, where a
plain text is SQL.
-/

namespace SqlBuilder

/-- Boolean combinations of operands. -/
inductive Predicate (α : Type)
  | not (operand : α)
  | all (operands : List α)
  | any (operands : List α)

/-- A configuration and the calls made under it. They are kept newest first, so queries with a
common beginning share it. -/
structure Query (α : Type) where
  config : Config
  history : List (Call α)

/-- The calls of a query, oldest first. -/
def Query.log {α : Type} (q : Query α) : Log α := q.history.reverse

/-- Anything a query can be given. -/
inductive Operand
  /-- A parameter. -/
  | value (v : Value)
  /-- The keyword `default`. -/
  | default
  /-- SQL text. -/
  | raw (sql : String)
  | template (t : Template Operand)
  /-- A sub-query, compiled under its own configuration. -/
  | query (q : Query Operand)
  /-- A compiled statement. -/
  | statement (s : Statement)
  /-- A mapping from keys to operands. -/
  | record (r : Record Operand)
  | predicate (p : Predicate Operand)

instance : Inhabited Operand := ⟨.default⟩

/-- How a single operand is written: as a parameter or as SQL text. -/
inductive Escaped
  | parameter (v : Value)
  | raw (sql : String)

namespace Operand

/-- The writing of a value or of raw text; no other operand is a single one. -/
def classify : Operand → Option Escaped
  | .value v => some (.parameter v)
  | .raw sql => some (.raw sql)
  | _ => none

end Operand

namespace Predicate

/-- Both the predicate and the operand; a conjunction is extended in place. -/
def and : Predicate Operand → Operand → Predicate Operand
  | .all operands, x => .all (operands ++ [x])
  | p, x => .all [.predicate p, x]

/-- The predicate or the operand; a disjunction is extended in place. -/
def or : Predicate Operand → Operand → Predicate Operand
  | .any operands, x => .any (operands ++ [x])
  | p, x => .any [.predicate p, x]

end Predicate

/-- The record of a JSON object: each member becomes a value. -/
def Record.ofMembers (members : Record Json) : Record Operand :=
  members.map fun j => .value (Value.ofJson j)

/-- The record of a JSON value, which has to be an object. -/
def Record.ofJson : Json → Except Error (Record Operand)
  | .object members => .ok (Record.ofMembers members)
  | j => .error (.condition (.notObject j))

/-- What stands where SQL is expected. -/
inductive Expr
  /-- SQL text. -/
  | sql (text : String)
  | template (t : Template Operand)
  | query (q : Query Operand)
  | statement (s : Statement)
  | record (r : Record Operand)
  | predicate (p : Predicate Operand)

namespace Expr

instance : Coe String Expr := ⟨.sql⟩

/-- The operand that an expression is. -/
def operand : Expr → Operand
  | .sql text => .raw text
  | .template t => .template t
  | .query q => .query q
  | .statement s => .statement s
  | .record r => .record r
  | .predicate p => .predicate p

/-- The expression that an operand is; values and `default` are none. -/
def ofOperand? : Operand → Option Expr
  | .value _ => none
  | .default => none
  | .raw text => some (.sql text)
  | .template t => some (.template t)
  | .query q => some (.query q)
  | .statement s => some (.statement s)
  | .record r => some (.record r)
  | .predicate p => some (.predicate p)

/-- An expression is had back from the operand that it is written as. -/
theorem ofOperand?_operand (e : Expr) : ofOperand? e.operand = some e := by
  cases e <;> rfl

end Expr

end SqlBuilder
