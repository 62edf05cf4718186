import SqlBuilder.Clause
import SqlBuilder.Ident
import SqlBuilder.Wire.Encode

/-!
# Errors

An `Error` says what went wrong: the first five constructors arise while a query is compiled,
the others while a statement is executed or its rows are read. `Error.message` is the one place
that words them. Every family of faults has a constructor `other` for a message that a caller
supplies.
-/

namespace SqlBuilder

/-- The shapes of operands, as messages name them. -/
inductive Shape
  | value
  | default
  | raw
  | template
  | query
  | statement
  | record
  | predicate
  deriving DecidableEq

/-- The phrase for an operand of a shape. -/
def Shape.phrase : Shape → String
  | .value => "a value"
  | .default => "default"
  | .raw => "raw SQL"
  | .template => "a template"
  | .query => "a sub-query"
  | .statement => "a compiled statement"
  | .record => "a key-value mapping"
  | .predicate => "a predicate"

/-- Counts that do not match. -/
inductive ArityFault
  | slots (expected bound : Nat)
  /-- The digits of a placeholder exceed every index. -/
  | placeholderRange (digits : String)
  | placeholder (index supplied : Nat)
  | columnsWithoutValues
  | columnCalls (columns values : Nat)
  | mixedRows
  | rowsWithColumns
  | noRows
  | emptyRows
  | columnLists
  | valuesBeforeColumns
  | rowWidth (values columns : Nat)
  | noColumns
  | other (message : String)

def ArityFault.message : ArityFault → String
  | .slots expected bound =>
    "template has " ++ Nat.repr expected ++ " slot(s) but " ++ Nat.repr bound ++
      " argument(s) were bound"
  | .placeholderRange digits => "invalid placeholder $" ++ digits
  | .placeholder index supplied =>
    "placeholder $" ++ Nat.repr index ++ " has no argument (" ++ Nat.repr supplied ++ " supplied)"
  | .columnsWithoutValues => "insert columns were declared but no values supplied"
  | .columnCalls columns values =>
    Nat.repr columns ++ " column call(s) but " ++ Nat.repr values ++ " value call(s)"
  | .mixedRows => "rows and positional values cannot be mixed in one call"
  | .rowsWithColumns => "rows cannot be combined with explicit columns or positional values"
  | .noRows => "insert has no rows"
  | .emptyRows => "several empty rows cannot be inserted"
  | .columnLists => "insert column lists differ between calls"
  | .valuesBeforeColumns => "values supplied before any columns"
  | .rowWidth values columns =>
    "row has " ++ Nat.repr values ++ " value(s) but " ++ Nat.repr columns ++
      " column(s) were declared"
  | .noColumns => "insert has no columns"
  | .other message => message

/-- Operands that no condition or single operand can be made of. -/
inductive ConditionFault
  | operandForKey (shape : Shape) (key : String)
  | emptyPredicate
  | mapping
  | notCondition (shape : Shape)
  | notObject (json : Json)
  | other (message : String)

def ConditionFault.message : ConditionFault → String
  | .operandForKey shape key =>
    shape.phrase ++ " is not a valid operand for key '" ++ key ++ "'"
  | .emptyPredicate => "empty predicate used as an operand"
  | .mapping => "a key-value mapping cannot be used as a single operand"
  | .notCondition shape =>
    "expected a mapping, template, raw SQL, sub-query or predicate, got " ++ shape.phrase
  | .notObject json => "expected a JSON object, got " ++ json.compact
  | .other message => message

/-- Calls that do not make a well-formed statement. -/
inductive ValidationFault
  | ident (text : String) (fault : Ident.Fault)
  | notBody (shape : Shape)
  | cteForm
  | joinWithoutSource
  | joinWithoutTarget
  | crossJoinCondition
  | joinWithoutCondition
  | noTarget
  | severalTargets
  | noAssignment
  | other (message : String)

def ValidationFault.message : ValidationFault → String
  | .ident text fault => fault.message text
  | .notBody shape => "expected a sub-query, template or raw SQL, got " ++ shape.phrase
  | .cteForm => "with expects an alias and a sub-query"
  | .joinWithoutSource => "join has no preceding from"
  | .joinWithoutTarget => "join requires a target"
  | .crossJoinCondition => "cross join does not take an on condition"
  | .joinWithoutCondition => "join requires an on condition"
  | .noTarget => "statement has no target table"
  | .severalTargets => "insert accepts a single target table"
  | .noAssignment => "update requires at least one assignment"
  | .other message => message

/-- Failures of an exchange with a server. -/
inductive QueryFault
  | parameterCount (expected actual : Nat)
  /-- A parameter could not be encoded. -/
  | parameter (index : Nat) (reason : EncodeFault)
  | database (message : String)

def QueryFault.message : QueryFault → String
  | .parameterCount expected actual =>
    "expected " ++ Nat.repr expected ++ " parameters but got " ++ Nat.repr actual
  | .parameter index _ => "error serializing parameter " ++ Nat.repr index
  | .database _ => "db error"

/-- What lies behind a failed exchange. -/
def QueryFault.cause? : QueryFault → Option String
  | .parameterCount .. => none
  | .parameter _ reason => some reason.message
  | .database message => some ("ERROR: " ++ message)

/-- The constraints whose violation is told apart. -/
inductive Constraint
  | unique
  | foreignKey
  | check
  deriving DecidableEq

def Constraint.phrase : Constraint → String
  | .unique => "Unique constraint violation: "
  | .foreignKey => "Foreign key violation: "
  | .check => "Check constraint violation: "

/-- Cells that cannot be read. -/
inductive DecodeFault
  | unsupportedType (type : SqlType)
  | missingColumn (name : String)
  | cell (index : Nat)
  | other (message : String)

def DecodeFault.message : DecodeFault → String
  | .unsupportedType type => "unsupported column type " ++ type.toName
  | .missingColumn name => "invalid column `" ++ name ++ "`"
  | .cell index => "error deserializing column " ++ Nat.repr index
  | .other message => message

/-- What can go wrong. -/
inductive Error
  | conflictingKinds (first second : StatementKind)
  | arity (fault : ArityFault)
  | missingTarget (kind : StatementKind)
  | condition (fault : ConditionFault)
  | validation (fault : ValidationFault)
  | query (fault : QueryFault)
  | notFound (message : String)
  | violation (constraint : Constraint) (message : String)
  | decode (column : String) (fault : DecodeFault)

namespace Error

/-- The text of an error. -/
def message : Error → String
  | .conflictingKinds first second =>
    "Conflicting statement kind: " ++ first.name ++ " and " ++ second.name ++
      " cannot be combined"
  | .arity fault => "Arity mismatch: " ++ fault.message
  | .missingTarget kind => "Empty statement: " ++ kind.name ++ " requires a target table"
  | .condition fault => "Malformed condition: " ++ fault.message
  | .validation fault => "Validation error: " ++ fault.message
  | .query fault => "Query error: " ++ fault.message
  | .notFound message => "Not found: " ++ message
  | .violation constraint message => constraint.phrase ++ message
  | .decode column fault => "Decode error on column '" ++ column ++ "': " ++ fault.message

/-- Whether the error arises while a query is compiled. -/
def isCompileError : Error → Bool
  | .conflictingKinds .. | .arity _ | .missingTarget _ | .condition _ | .validation _ => true
  | _ => false

/-- Whether the error says that no row was found. -/
def isNotFound : Error → Bool
  | .notFound _ => true
  | _ => false

/-- What lies behind the error. -/
def cause? : Error → Option String
  | .query fault => fault.cause?
  | _ => none

end Error

/-- What a server reports when it fails. -/
structure DatabaseError where
  /-- The five characters of the error's class and kind. -/
  code : String
  message : String
  constraint : Option String

/-- The constraint whose violation a code stands for. -/
def DatabaseError.violated? (e : DatabaseError) : Option Constraint :=
  [("23505", Constraint.unique), ("23503", .foreignKey), ("23514", .check)].lookup e.code

/-- The error for a server's report: violated constraints are told apart by name. -/
def Error.ofDatabase (e : DatabaseError) : Error :=
  match e.violated? with
  | some kind => .violation kind (e.constraint.getD "unknown" ++ ": " ++ e.message)
  | none => .query (.database e.message)

/-- The text of a valid identifier, as it is written into SQL. -/
def Ident.checked (text : String) : Except Error String :=
  match Ident.parse text with
  | .ok ident => .ok ident.toSql
  | .error fault => .error (.validation (.ident text fault))

end SqlBuilder
