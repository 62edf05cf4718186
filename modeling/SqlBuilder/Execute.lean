import SqlBuilder.Compile
import SqlBuilder.Row
import SqlBuilder.Run

/-!
# Executing statements

A `Client` is the only way to a database. The client of a `Backend` sends it text and parameters
and turns its failures into errors. Compiled statements and queries are executed by the same
functions: `Executable.prepare` gives the statement, for a query by compiling it first, and the
client is asked for that statement.
-/

namespace SqlBuilder

/-- What answers statements: with rows, or with the number of rows affected. -/
structure Client where
  query : Statement → Exchange (List Row)
  execute : Statement → Exchange Nat

namespace Client

/-- The first row, which has to be there. -/
def queryOne (client : Client) (s : Statement) : Exchange Row := do
  match ← client.query s with
  | row :: _ => return row
  | [] => Exchange.ofResult (.error (.notFound "Expected one row, got none"))

/-- The first row, if there is one. -/
def queryOpt (client : Client) (s : Statement) : Exchange (Option Row) := do
  return (← client.query s).head?

/-- The client that sends each statement once and gives the answers to it. -/
def answering (rows : Statement → Except Error (List Row))
    (affected : Statement → Except Error Nat) : Client :=
  ⟨.send rows, .send affected⟩

/-- The client that gets no rows and always the same count. -/
def constant (affected : Nat) : Client := answering (fun _ => .ok []) fun _ => .ok affected

end Client

/-- Why there is no answer: the database reports an error, or the exchange with it fails. -/
inductive Failure
  | reported (e : DatabaseError)
  | exchange (fault : QueryFault)

/-- The error that a failure comes back as. -/
def Failure.error : Failure → Error
  | .reported e => Error.ofDatabase e
  | .exchange fault => .query fault

/-- A database as seen from here: it answers a text with its parameters. -/
structure Backend where
  rows : String → List Value → Except Failure (List Row)
  affected : String → List Value → Except Failure Nat

/-- The client of a backend. -/
def Backend.client (b : Backend) : Client :=
  .answering (fun s => (b.rows s.text s.args).mapError Failure.error) fun s =>
    (b.affected s.text s.args).mapError Failure.error

/-- A statement that is ready to be sent, and how many bytes of it events show. -/
structure Prepared where
  statement : Statement
  maxLoggedSql : Option Nat

/-- What a statement can be had from. -/
class Executable (σ : Type) where
  prepare : σ → Run Prepared

/-- How many bytes of SQL events show without a configuration. -/
def defaultMaxLoggedSql : Option Nat := some 200

instance : Executable Statement where
  prepare s := pure ⟨s, defaultMaxLoggedSql⟩

/-- Compiles a query and reports it. -/
def Query.compileLogged (q : Query Operand) : Run Statement :=
  match q.compile with
  | .ok c =>
    ⟨[.compiled c.kind c.statement.args.length (shownSql q.config.maxLoggedSql c.statement.text)],
      [], .ok c.statement⟩
  | .error e => ⟨[.compileFailed e], [], .error e⟩

instance : Executable (Query Operand) where
  prepare q := do
    let s ← q.compileLogged
    return ⟨s, q.config.maxLoggedSql⟩

namespace Executable

variable {σ α : Type} [Executable σ]

/-- Prepares a statement, reports the operation and asks for the answer to the statement. -/
def perform (operation : Operation) (ask : Statement → Exchange α) (x : σ) : Run α := do
  let p ← prepare x
  Run.report (.executing operation p.statement.args.length
    (shownSql p.maxLoggedSql p.statement.text))
  Run.ofExchange (ask p.statement)

/-- All rows. -/
def fetchAll (client : Client) (x : σ) : Run (List Row) := perform .fetchAll client.query x

/-- The first row; it is an error if there is none. -/
def fetchOne (client : Client) (x : σ) : Run Row := perform .fetchOne client.queryOne x

/-- The first row, if there is one. -/
def fetchOpt (client : Client) (x : σ) : Run (Option Row) :=
  perform .fetchOpt client.queryOpt x

/-- Whether some row comes back. -/
def hasRow (client : Client) (x : σ) : Run Bool := do
  return (← fetchOpt client x).isSome

/-- The number of rows affected. -/
def execute (client : Client) (x : σ) : Run Nat := perform .execute client.execute x

/-- All rows, decoded. -/
def fetchAllAs (decode : Row → Except Error α) (client : Client) (x : σ) : Run (List α) := do
  let rows ← fetchAll client x
  Run.ofResult (rows.mapM decode)

/-- The first row, decoded. -/
def fetchOneAs (decode : Row → Except Error α) (client : Client) (x : σ) : Run α := do
  let row ← fetchOne client x
  Run.ofResult (decode row)

/-- The first row, decoded, if there is one. -/
def fetchOptAs (decode : Row → Except Error α) (client : Client) (x : σ) : Run (Option α) := do
  let row ← fetchOpt client x
  Run.ofResult (row.mapM decode)

end Executable

/-- All rows of a query in their JSON form. -/
def Query.fetchAllJson (client : Client) (q : Query Operand) : Run (List (Record Json)) :=
  Executable.fetchAllAs (Row.toJson q.config) client q

end SqlBuilder
