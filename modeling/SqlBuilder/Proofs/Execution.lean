import SqlBuilder.Execute
import SqlBuilder.Proofs.Refusal

/-!
# Executing queries

A query that does not compile never reaches the database, and its compile error comes back as it
is. A query that compiles is sent to the database once, as its statement, and what the database
answers to the text with its parameters comes back, just as if the statement itself were executed;
it is never a compile error (`Query.Boundary`). The database may answer in any way: a `Backend` is
any function of text and parameters that gives rows, a count or a failure.
-/

namespace SqlBuilder

variable {α β : Type}

theorem Error.found_of_isCompileError {e : Error} (h : e.isCompileError) :
    e.isNotFound = false := by
  cases e with
  | notFound message => cases h
  | _ => rfl

/-- If the computation fails, it does not fail with a compile error. -/
abbrev External (x : Except Error α) : Prop := FailsWith (fun e => e.isCompileError = false) x

/-! ### What backends answer -/

theorem Failure.error_cases (f : Failure) : (∃ fault, f.error = .query fault) ∨
    ∃ constraint message, f.error = .violation constraint message := by
  cases f with
  | reported e =>
    rw [error, Error.ofDatabase]
    cases e.violated? with
    | none => exact .inl ⟨_, rfl⟩
    | some constraint => exact .inr ⟨_, _, rfl⟩
  | exchange fault => exact .inl ⟨fault, rfl⟩

/-- No failure passes for a compile error or for a missing row. -/
theorem Failure.unmistakable (f : Failure) :
    f.error.isCompileError = false ∧ f.error.isNotFound = false := by
  rcases f.error_cases with ⟨fault, same⟩ | ⟨constraint, message, same⟩
  all_goals
    rw [same]
    exact ⟨rfl, rfl⟩

/-- The first of the rows; there has to be one. -/
def firstRow : List Row → Except Error Row
  | row :: _ => .ok row
  | [] => .error (.notFound "Expected one row, got none")

theorem external_firstRow (rows : List Row) : External (firstRow rows) := by
  cases rows with
  | nil => exact .error rfl
  | cons row rest => exact .ok row

namespace Client

variable (client : Client) (s : Statement)

/-- Asking for the first row sends what asking for all rows sends. -/
theorem queryOne_eq : client.queryOne s =
    ⟨(client.query s).requests, (client.query s).result >>= firstRow⟩ := by
  rw [queryOne]
  obtain ⟨requests, result⟩ := client.query s
  cases result with
  | error e => rfl
  | ok rows =>
    cases rows with
    | nil => exact congrArg (Exchange.mk · _) (List.append_nil requests)
    | cons row rest => exact congrArg (Exchange.mk · _) (List.append_nil requests)

/-- So does asking for the first row, if there is one. -/
theorem queryOpt_eq : client.queryOpt s =
    ⟨(client.query s).requests, (client.query s).result >>= fun rows => .ok rows.head?⟩ := by
  rw [queryOpt]
  obtain ⟨requests, result⟩ := client.query s
  cases result with
  | error e => rfl
  | ok rows => exact congrArg (Exchange.mk · _) (List.append_nil requests)

end Client

namespace Backend

variable (b : Backend)

/-- What is read of the rows that the backend answers, or the error that its failure comes back
as. -/
def onRows (read : List Row → Except Error α) (text : String) (args : List Value) :
    Except Error α :=
  match b.rows text args with
  | .ok rows => read rows
  | .error f => .error f.error

/-- The count that the backend answers, or the error that its failure comes back as. -/
def count (text : String) (args : List Value) : Except Error Nat :=
  match b.affected text args with
  | .ok n => .ok n
  | .error f => .error f.error

variable (text : String) (args : List Value)

theorem onRows_bind (read : List Row → Except Error α) (next : α → Except Error β) :
    b.onRows read text args >>= next = b.onRows (fun rows => read rows >>= next) text args := by
  rw [onRows, onRows]
  cases b.rows text args with
  | ok rows => rfl
  | error f => rfl

theorem failsWith_onRows {P : Error → Prop} (failed : ∀ f : Failure, P f.error)
    {read : List Row → Except Error α} (h : ∀ rows, FailsWith P (read rows)) :
    FailsWith P (b.onRows read text args) := by
  rw [onRows]
  cases b.rows text args with
  | ok rows => exact h rows
  | error f => exact .error (failed f)

theorem external_onRows {read : List Row → Except Error α} (h : ∀ rows, External (read rows)) :
    External (b.onRows read text args) :=
  b.failsWith_onRows text args (fun f => f.unmistakable.1) h

theorem external_count : External (b.count text args) := by
  rw [count]
  cases b.affected text args with
  | ok n => exact .ok n
  | error f => exact .error f.unmistakable.1

/-! The client of a backend sends a statement once, whatever it is asked for. -/

variable (s : Statement)

theorem query_client : b.client.query s = ⟨[s], b.onRows .ok s.text s.args⟩ := by
  change Exchange.mk [s] ((b.rows s.text s.args).mapError Failure.error) = _
  rw [onRows]
  cases b.rows s.text s.args with
  | ok rows => rfl
  | error f => rfl

theorem queryOne_client : b.client.queryOne s = ⟨[s], b.onRows firstRow s.text s.args⟩ := by
  rw [Client.queryOne_eq, query_client, onRows_bind]
  rfl

theorem queryOpt_client :
    b.client.queryOpt s = ⟨[s], b.onRows (fun rows => .ok rows.head?) s.text s.args⟩ := by
  rw [Client.queryOpt_eq, query_client, onRows_bind]
  rfl

theorem execute_client : b.client.execute s = ⟨[s], b.count s.text s.args⟩ := by
  change Exchange.mk [s] ((b.affected s.text s.args).mapError Failure.error) = _
  rw [count]
  cases b.affected s.text s.args with
  | ok n => rfl
  | error f => rfl

end Backend

/-! ### Runs -/

theorem Run.result_bind (r : Run α) (next : α → Run β) :
    (r >>= next).result = r.result >>= fun a => (next a).result := by
  obtain ⟨events, requests, result⟩ := r
  cases result <;> rfl

/-- Reading the result of a run sends nothing. -/
theorem Run.requests_read (r : Run α) (read : α → Except Error β) :
    (r >>= fun a => ofResult (read a)).requests = r.requests := by
  obtain ⟨events, requests, result⟩ := r
  cases result with
  | error e => rfl
  | ok a => exact List.append_nil requests

/-- How a run on a query goes, next to the same operation on statements and to what a database
answers to a text with its parameters. -/
structure Query.Boundary (q : Query Operand) (run : Run α) (direct : Statement → Run α)
    (answer : String → List Value → Except Error α) : Prop where
  /-- A query that does not compile gives its compile error, and nothing is sent. -/
  refused : ∀ e, q.compile = .error e →
    run.requests = [] ∧ run.result = .error e ∧ e.isCompileError
  /-- The statement of one that compiles is sent once. What comes back is the answer to it, no
  compile error, and what the operation on the statement gives. -/
  sent : ∀ c, q.compile = .ok c → run.requests = [c.statement] ∧
    run.result = answer c.statement.text c.statement.args ∧ External run.result ∧
    run.result = (direct c.statement).result
  /-- A statement is sent once as it is, and what comes back is the answer to it. -/
  statements : ∀ s, (direct s).requests = [s] ∧ (direct s).result = answer s.text s.args

namespace Query

variable {q : Query Operand} {answer : String → List Value → Except Error α}

theorem prepare_of_error {e : Error} (h : q.compile = .error e) :
    Executable.prepare q = ⟨[.compileFailed e], [], .error e⟩ := by
  have logged : q.compileLogged = ⟨[.compileFailed e], [], .error e⟩ := by rw [compileLogged, h]
  change (q.compileLogged >>= _) = _
  rw [logged]
  rfl

theorem prepare_of_ok {c : Compiled} (h : q.compile = .ok c) :
    Executable.prepare q =
      ⟨[.compiled c.kind c.statement.args.length
          (shownSql q.config.maxLoggedSql c.statement.text)], [],
        .ok ⟨c.statement, q.config.maxLoggedSql⟩⟩ := by
  have logged : q.compileLogged =
      ⟨[.compiled c.kind c.statement.args.length
          (shownSql q.config.maxLoggedSql c.statement.text)], [], .ok c.statement⟩ := by
    rw [compileLogged, h]
  change (q.compileLogged >>= _) = _
  rw [logged]
  rfl

/-- An operation keeps to the boundary if it asks by sending its statement once, and if the answer
is no compile error. -/
theorem boundary_perform (operation : Operation) {ask : Statement → Exchange α}
    (asks : ∀ s, ask s = ⟨[s], answer s.text s.args⟩)
    (external : ∀ text args, External (answer text args)) :
    q.Boundary (Executable.perform operation ask q) (Executable.perform operation ask) answer where
  refused e he := by
    rw [Executable.perform, prepare_of_error he]
    exact ⟨rfl, rfl, q.refuses_compile e he⟩
  sent c hc := by
    have asked := asks c.statement
    rw [Executable.perform, prepare_of_ok hc]
    refine ⟨?_, ?_, ?_, rfl⟩
    · exact congrArg Exchange.requests asked
    · exact congrArg Exchange.result asked
    · change External (ask c.statement).result
      rw [asked]
      exact external _ _
  statements s := by
    have asked := asks s
    exact ⟨congrArg Exchange.requests asked, congrArg Exchange.result asked⟩

/-- Reading the result keeps to the boundary. -/
theorem Boundary.read {run : Run α} {direct : Statement → Run α}
    (h : q.Boundary run direct answer) {read : α → Except Error β}
    (external : ∀ a, External (read a)) :
    q.Boundary (run >>= fun a => Run.ofResult (read a))
      (fun s => direct s >>= fun a => Run.ofResult (read a))
      fun text args => answer text args >>= read where
  refused e he := by
    obtain ⟨requests, result, refused⟩ := h.refused e he
    rw [Run.requests_read, Run.result_bind, requests, result]
    exact ⟨rfl, rfl, refused⟩
  sent c hc := by
    obtain ⟨requests, result, outcome, same⟩ := h.sent c hc
    rw [Run.requests_read, Run.result_bind, Run.result_bind, ← same]
    refine ⟨requests, ?_, ?_, rfl⟩
    · rw [result]
      rfl
    · exact outcome.bind fun a _ => external a
  statements s := by
    obtain ⟨requests, result⟩ := h.statements s
    rw [Run.requests_read, Run.result_bind, result]
    exact ⟨requests, rfl⟩

end Query

/-! ### What the operations have to do with each other -/

/-- On the same answer the ways to fetch rows agree. -/
structure Executable.Coherent {σ : Type} [Executable σ] (client : Client) (x : σ) : Prop where
  one_iff_opt : ∀ row,
    (fetchOne client x).result = .ok row ↔ (fetchOpt client x).result = .ok (some row)
  opt_iff_all : ∀ row, (fetchOpt client x).result = .ok (some row) ↔
    ∃ rest, (fetchAll client x).result = .ok (row :: rest)
  notFound_iff : (∃ message, (fetchOne client x).result = .error (.notFound message)) ↔
    (fetchAll client x).result = .ok []
  hasRow_eq : (hasRow client x).result = (fetchOpt client x).result.map Option.isSome

namespace Executable

variable {σ : Type} [Executable σ]

/-- An operation gives the answer to the prepared statement. -/
theorem result_perform (operation : Operation) (ask : Statement → Exchange α) (x : σ) :
    (perform operation ask x).result =
      (prepare x).result >>= fun p => (ask p.statement).result := by
  rw [perform, Run.result_bind]
  rfl

/-- The first of the fetched rows, which has to be there. -/
theorem result_fetchOne (client : Client) (x : σ) :
    (fetchOne client x).result = (fetchAll client x).result >>= firstRow := by
  rw [fetchOne, fetchAll, result_perform, result_perform]
  cases (prepare x).result with
  | error e => rfl
  | ok p => exact congrArg Exchange.result (client.queryOne_eq p.statement)

/-- The first of the fetched rows, if there is one. -/
theorem result_fetchOpt (client : Client) (x : σ) :
    (fetchOpt client x).result = (fetchAll client x).result >>= fun rows => .ok rows.head? := by
  rw [fetchOpt, fetchAll, result_perform, result_perform]
  cases (prepare x).result with
  | error e => rfl
  | ok p => exact congrArg Exchange.result (client.queryOpt_eq p.statement)

theorem result_hasRow (client : Client) (x : σ) :
    (hasRow client x).result = (fetchOpt client x).result.map Option.isSome := by
  rw [hasRow, Run.result_bind]
  cases (fetchOpt client x).result with
  | error e => rfl
  | ok row => rfl

/-- The operations agree if no error in front of the rows passes for a missing row. -/
theorem coherent {client : Client} {x : σ}
    (found : FailsWith (fun e => e.isNotFound = false) (fetchAll client x).result) :
    Coherent client x := by
  have one := result_fetchOne client x
  have opt := result_fetchOpt client x
  cases all : (fetchAll client x).result with
  | error e =>
    rw [all] at one opt
    refine ⟨?_, ?_, ?_, result_hasRow client x⟩
    · intro row
      rw [one, opt]
      exact ⟨nofun, nofun⟩
    · intro row
      rw [opt, all]
      exact ⟨nofun, nofun⟩
    · rw [one, all]
      refine ⟨?_, nofun⟩
      rintro ⟨message, same⟩
      cases same
      cases found _ all
  | ok rows =>
    rw [all] at one opt
    refine ⟨?_, ?_, ?_, result_hasRow client x⟩
    · intro row
      rw [one, opt]
      cases rows with
      | nil => exact ⟨nofun, nofun⟩
      | cons first rest => simp [bind, Except.bind, firstRow]
    · intro row
      rw [opt, all]
      cases rows with
      | nil => exact ⟨nofun, nofun⟩
      | cons first rest => simp [bind, Except.bind]
    · rw [one, all]
      cases rows with
      | nil => exact ⟨fun _ => rfl, fun _ => ⟨_, rfl⟩⟩
      | cons first rest => exact ⟨nofun, nofun⟩

/-- What a backend answers does not pass for a missing row. -/
theorem coherent_backend (b : Backend) {x : σ}
    (prepared : FailsWith (fun e => e.isNotFound = false) (prepare x).result) :
    Coherent b.client x := by
  apply coherent
  rw [fetchAll, result_perform]
  refine prepared.bind fun p _ => ?_
  rw [b.query_client]
  exact b.failsWith_onRows _ _ (fun f => f.unmistakable.2) FailsWith.ok

end Executable

/-- Cells that cannot be read are no compile errors. -/
theorem Row.external_toJson (config : Config) (row : Row) : External (row.toJson config) := by
  have cell (index : Nat) (column : Column) : External (row.cellJson index column) := by
    unfold Row.cellJson
    split
    · exact .error rfl
    · rename_i decoder _
      cases (row.cell? decoder index).map fun value => value.getD .null with
      | ok json => exact .ok json
      | error fault => exact .error rfl
  refine (FailsWith.mapM fun entry _ => ?_).bind fun members _ => .ok _
  exact (cell entry.2 entry.1).bind fun json _ => .ok _

namespace Query

open Executable

/-- Executing a query agrees with compiling it, whatever the backend: all operations keep to the
boundary, where each reads its own part of what the backend answers, and on the same answer they
agree with each other. -/
theorem execution_boundary (q : Query Operand) (b : Backend) :
    q.Boundary (fetchAll b.client q) (fetchAll b.client) (b.onRows .ok) ∧
    q.Boundary (fetchOne b.client q) (fetchOne b.client) (b.onRows firstRow) ∧
    q.Boundary (fetchOpt b.client q) (fetchOpt b.client) (b.onRows fun rows => .ok rows.head?) ∧
    q.Boundary (hasRow b.client q) (hasRow b.client) (b.onRows fun rows => .ok !rows.isEmpty) ∧
    q.Boundary (execute b.client q) (execute b.client) b.count ∧
    q.Boundary (q.fetchAllJson b.client) (fetchAllAs (Row.toJson q.config) b.client)
      (b.onRows (List.mapM (Row.toJson q.config))) ∧
    Coherent b.client q ∧ ∀ s : Statement, Coherent b.client s := by
  have all : q.Boundary (fetchAll b.client q) (fetchAll b.client) (b.onRows .ok) :=
    boundary_perform .fetchAll b.query_client fun text args =>
      b.external_onRows text args FailsWith.ok
  have opt : q.Boundary (fetchOpt b.client q) (fetchOpt b.client)
      (b.onRows fun rows => .ok rows.head?) :=
    boundary_perform .fetchOpt b.queryOpt_client fun text args =>
      b.external_onRows text args fun rows => .ok rows.head?
  refine ⟨all, ?_, opt, ?_, ?_, ?_, ?_, fun s => coherent_backend b nofun⟩
  · exact boundary_perform .fetchOne b.queryOne_client fun text args =>
      b.external_onRows text args external_firstRow
  · have boundary := opt.read fun row => .ok row.isSome
    have present (rows : List Row) :
        (do let row ← Except.ok rows.head?; .ok row.isSome : Except Error Bool) =
          .ok !rows.isEmpty := by
      cases rows <;> rfl
    simp only [b.onRows_bind, present] at boundary
    exact boundary
  · exact boundary_perform .execute b.execute_client b.external_count
  · have objects (rows : List Row) : External (rows.mapM (Row.toJson q.config)) :=
      .mapM fun row _ => row.external_toJson q.config
    have boundary := all.read objects
    simp only [b.onRows_bind] at boundary
    exact boundary
  · refine coherent_backend b fun e he => ?_
    cases hq : q.compile with
    | error e' =>
      rw [prepare_of_error hq] at he
      cases he
      exact Error.found_of_isCompileError (q.refuses_compile e hq)
    | ok c =>
      rw [prepare_of_ok hq] at he
      cases he

end Query

end SqlBuilder
