/-!
# Clauses and statement kinds

Every recorded call contributes to one `Clause`. `Clause.impliedKind?` is the statement that a
clause demands by itself, and `StatementKind.needsTarget` tells which statements are
meaningless without a table to change.
-/

namespace SqlBuilder

/-- The ways to join a table. -/
inductive Join
  | inner
  | left
  | right
  | full
  | cross
  deriving DecidableEq

/-- The SQL keywords of a join. -/
def Join.keyword : Join → String
  | .inner => "join"
  | .left => "left join"
  | .right => "right join"
  | .full => "full join"
  | .cross => "cross join"

/-- What a call contributes to. -/
inductive Clause
  /-- Common table expressions. -/
  | cte
  /-- Tables of `from`, and the target of a mutation. -/
  | table
  | join (kind : Join)
  | filter
  /-- The columns that come back: `select` or `returning`. -/
  | output
  | grouping
  | having
  | ordering
  | limit
  | offset
  | assignment
  | columns
  | rows
  | deletion
  /-- Parts written by hand. -/
  | manual
  deriving DecidableEq

/-- The kinds of statement. -/
inductive StatementKind
  | select
  | insert
  | update
  | delete
  | manual
  deriving DecidableEq

namespace StatementKind

/-- The name of a kind. -/
def name : StatementKind → String
  | .select => "select"
  | .insert => "insert"
  | .update => "update"
  | .delete => "delete"
  | .manual => "manual"

/-- Whether the statement is meaningless without a target table. -/
def needsTarget : StatementKind → Bool
  | .insert | .update | .delete => true
  | .select | .manual => false

end StatementKind

namespace Clause

/-- The statement that a call of this clause demands. -/
def impliedKind? : Clause → Option StatementKind
  | .assignment => some .update
  | .columns | .rows => some .insert
  | .deletion => some .delete
  | .manual => some .manual
  | _ => none

/-- Clauses that only a `select` has. -/
def isSelectOnly : Clause → Bool
  | .grouping | .having | .ordering | .limit | .offset => true
  | _ => false

/-- Clauses that name a source of rows. -/
def isSource : Clause → Bool
  | .table | .join _ => true
  | _ => false

end Clause

end SqlBuilder
