import SqlBuilder.Condition
import SqlBuilder.Error
import SqlBuilder.Operand

/-!
# Terms

A `Term` is what an operand is once the SQL nested in it has been compiled. What went wrong in
a nested part stays inside the term and counts only where the part is used, so faults surface in
the order in which a statement is written.
-/

namespace SqlBuilder

/-- An operand whose nested parts are compiled. -/
inductive Term
  | value (v : Value)
  | default
  | raw (sql : String)
  | template (text : Except Error Fragment)
  | query (body : Except Error Fragment)
  | statement (body : Except Error Fragment)
  | record (r : Record Term)
  | predicate (condition : Except Error (Option Condition))

namespace Term

instance : Inhabited Term := ⟨.default⟩

/-- The shape of a term, as messages name it. -/
def shape : Term → Shape
  | .value _ => .value
  | .default => .default
  | .raw _ => .raw
  | .template _ => .template
  | .query _ => .query
  | .statement _ => .statement
  | .record _ => .record
  | .predicate _ => .predicate

/-- Whether the term is a mapping by itself. -/
def isRecord : Term → Bool
  | .record _ => true
  | _ => false

/-- The mapping that a term is: a record, or a JSON object among the values. -/
def entries? : Term → Option (Record Term)
  | .record r => some r
  | .value (.json (.object members)) => some (members.map fun j => .value (Value.ofJson j))
  | _ => none

/-- The term as one operand: sub-queries, statements and predicates stand in parentheses. -/
def operand : Term → Except Error Fragment
  | .value v => .ok (Fragment.ofValue v)
  | .default => .ok (Fragment.ofSql "default")
  | .raw sql => .ok (Fragment.ofSql sql)
  | .template text => text
  | .query body => body.map Fragment.parenthesized
  | .statement body => body.map Fragment.parenthesized
  | .record _ => .error (.condition .mapping)
  | .predicate condition => do
    match ← condition with
    | some c => .ok c.render.parenthesized
    | none => .error (.condition .emptyPredicate)

/-- The term as SQL that stands by itself, without parentheses. -/
def body : Term → Except Error Fragment
  | .raw sql => .ok (Fragment.ofSql sql)
  | .template text => text
  | .query body => body
  | .statement body => body
  | t => .error (.validation (.notBody t.shape))

/-- The term as something that gets an alias: here a text value is an identifier. -/
def source : Term → Except Error Fragment
  | .value (.text name) => (Ident.checked name).map Fragment.ofSql
  | t => t.operand

/-- One aliased item. -/
def aliased (entry : String × Term) : Except Error Fragment := do
  let name ← Ident.checked entry.1
  return (← entry.2.source).push (" as " ++ name)

/-- The term as an item of a list: a mapping gives one aliased item per entry. -/
def item (t : Term) : Except Error Fragment :=
  match t.entries? with
  | some r => (r.entries.mapM aliased).map fun items => Fragment.join items ", "
  | none => t.operand

/-- Terms as a comma-separated list. -/
def list (terms : List Term) : Except Error Fragment :=
  (terms.mapM item).map fun items => Fragment.join items ", "

end Term

end SqlBuilder
