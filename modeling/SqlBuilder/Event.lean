import SqlBuilder.Error

/-!
# Log events

What is reported while queries are compiled and statements are sent. Long SQL is cut at a
character boundary so that at most the given number of bytes is shown, and then ends in dots.
-/

namespace SqlBuilder

/-- The characters from the start that take up at most `limit` bytes. -/
def takeBytes : (limit : Nat) → List Char → List Char
  | _, [] => []
  | limit, c :: rest =>
    if c.utf8Size ≤ limit then c :: takeBytes (limit - c.utf8Size) rest else []

/-- The SQL that an event shows. -/
def shownSql (limit : Option Nat) (sql : String) : String :=
  match limit with
  | none => sql
  | some n =>
    if sql.utf8ByteSize ≤ n then sql else String.ofList (takeBytes n sql.toList) ++ "..."

/-- The ways to send a statement. -/
inductive Operation
  | fetchAll
  | fetchOne
  | fetchOpt
  | execute
  deriving DecidableEq

/-- The name of an operation in events. -/
def Operation.name : Operation → String
  | .fetchAll => "fetch_all"
  | .fetchOne => "fetch_one"
  | .fetchOpt => "fetch_opt"
  | .execute => "execute"

/-- A report. -/
inductive Event
  | compiled (kind : StatementKind) (params : Nat) (sql : String)
  | compileFailed (error : Error)
  | executing (operation : Operation) (params : Nat) (sql : String)

end SqlBuilder
