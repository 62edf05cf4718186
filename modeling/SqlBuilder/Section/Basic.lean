import SqlBuilder.Clause

/-!
# Sections of a statement

A statement is written section by section. `StatementKind.sections` gives the sections of each
kind of statement in the order in which they are written, and `Section.reads` says from which
clauses a section is made.
-/

namespace SqlBuilder

/-- The parts that statements consist of. -/
inductive Section
  | ctes
  | selection
  /-- The tables and joins of a `select`. -/
  | sources
  | filter
  | grouping
  | having
  | ordering
  | limit
  | offset
  /-- The target of an `insert` and its rows. -/
  | insertion
  /-- The target of an `update` and its assignments. -/
  | assignment
  /-- The tables of an `update` beside its target. -/
  | otherSources
  /-- The target of a `delete` and the tables beside it. -/
  | deletion
  | returning
  | manual
  deriving DecidableEq

/-- The sections of a kind of statement, in the order of the text. -/
def StatementKind.sections : StatementKind → List Section
  | .select =>
    [.ctes, .selection, .sources, .filter, .grouping, .having, .ordering, .limit, .offset]
  | .insert => [.ctes, .insertion, .returning]
  | .update => [.ctes, .assignment, .otherSources, .filter, .returning]
  | .delete => [.ctes, .deletion, .filter, .returning]
  | .manual => [.manual]

/-- Whether a section is made from the calls of a clause. -/
def Section.reads : Section → Clause → Bool
  | .ctes, clause => clause = .cte
  | .selection, clause => clause = .output
  | .sources, clause => clause.isSource
  | .filter, clause => clause = .filter
  | .grouping, clause => clause = .grouping
  | .having, clause => clause = .having
  | .ordering, clause => clause = .ordering
  | .limit, clause => clause = .limit
  | .offset, clause => clause = .offset
  | .insertion, clause => clause.isSource || clause = .columns || clause = .rows
  | .assignment, clause => clause.isSource || clause = .assignment
  | .otherSources, clause => clause.isSource
  | .deletion, clause => clause.isSource || clause = .deletion
  | .returning, clause => clause = .output
  | .manual, clause => clause = .manual

end SqlBuilder
