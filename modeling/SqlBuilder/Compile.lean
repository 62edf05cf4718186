import SqlBuilder.Query
import SqlBuilder.Section.Text

/-!
# Compiling queries

A query is compiled in two steps. Its operands become terms, innermost first, each sub-query
under its own configuration; then `Log.statement` infers the kind of the statement and writes its
sections in order. The parameters of the result are numbered at the very end, so a sub-query
takes its numbers from where it stands.
-/

namespace SqlBuilder

/-- The kind and the text of the statement that a log of terms makes up. -/
def Log.statement (config : Config) (log : Log Term) :
    Except Error (StatementKind × Fragment) := do
  let kind ← log.statementKind
  if kind.needsTarget && log.target?.isNone then .error (.missingTarget kind)
  else
    let sections ← kind.sections.mapM (Section.text config log)
    return (kind, Fragment.join sections " ")

mutual

/-- The term of an operand in a query with the given configuration. -/
def Operand.term (config : Config) : Operand → Term
  | .value v => .value v
  | .default => .default
  | .raw sql => .raw sql
  | .template t => .template (t.text config)
  | .query q => .query (q.statement.map Prod.snd)
  | .statement s => .statement s.toFragment
  | .record r => .record (r.terms config)
  | .predicate p => .predicate (p.condition config)
termination_by structural operand => operand

/-- The fragment of a template. -/
def Template.text (config : Config) : Template Operand → Except Error Fragment
  | ⟨parts, args⟩ => Template.render Term.operand ⟨parts, operandTerms config args⟩
termination_by structural template => template

/-- The kind and the text of a query. -/
def Query.statement : Query Operand → Except Error (StatementKind × Fragment)
  | ⟨config, history⟩ => Log.statement config (callTerms config history [])
termination_by structural query => query

/-- A mapping with terms for operands. -/
def Record.terms (config : Config) : Record Operand → Record Term
  | ⟨entries⟩ => ⟨entryTerms config entries⟩
termination_by structural record => record

/-- The condition of a predicate; `none` if no operand gives one. -/
def Predicate.condition (config : Config) : Predicate Operand → Except Error (Option Condition)
  | .not operand => Condition.noneOf config (operand.term config)
  | .all operands => Condition.allOf config (operandTerms config operands)
  | .any operands => Condition.anyOf config (operandTerms config operands)
termination_by structural predicate => predicate

/-- The terms of several operands. -/
def operandTerms (config : Config) : List Operand → List Term
  | [] => []
  | operand :: rest => operand.term config :: operandTerms config rest
termination_by structural operands => operands

/-- The terms of the entries of a mapping. -/
def entryTerms (config : Config) : List (String × Operand) → List (String × Term)
  | [] => []
  | entry :: rest => entryTerm config entry :: entryTerms config rest
termination_by structural entries => entries

/-- The term of an entry of a mapping. -/
def entryTerm (config : Config) : String × Operand → String × Term
  | (key, operand) => (key, operand.term config)
termination_by structural entry => entry

/-- Puts calls, newest first, in front of a log, with terms for operands. -/
def callTerms (config : Config) : List (Call Operand) → (later : Log Term) → Log Term
  | [], later => later
  | call :: rest, later => callTerms config rest (callTerm config call :: later)
termination_by structural calls => calls

/-- A call with terms for operands. -/
def callTerm (config : Config) : Call Operand → Call Term
  | ⟨clause, operands⟩ => ⟨clause, operandTerms config operands⟩
termination_by structural call => call

end

theorem callTerms_eq (config : Config) (calls : List (Call Operand)) (later : Log Term) :
    callTerms config calls later = calls.reverse.map (callTerm config) ++ later := by
  induction calls generalizing later with
  | nil => rfl
  | cons call rest ih => simp [callTerms, ih]

theorem Query.statement_eq (q : Query Operand) :
    q.statement = Log.statement q.config (q.log.map (callTerm q.config)) := by
  obtain ⟨config, history⟩ := q
  simp [Query.statement, callTerms_eq, Query.log]

/-- A compiled query: its kind and its statement. -/
structure Compiled where
  kind : StatementKind
  statement : Statement

/-- Compiles a query. -/
def Query.compile (q : Query Operand) : Except Error Compiled :=
  q.statement.map fun result => ⟨result.1, result.2.toStatement⟩

end SqlBuilder
