import SqlBuilder.Log
import SqlBuilder.Term.Condition

/-!
# Sources of rows

The tables and joins of a log, in the order of the calls. Tables are separated by commas; a join
is attached to what stands before it and cannot come first. The first source of a mutation is its
target and has to be a table.
-/

namespace SqlBuilder

/-- A table or a join. -/
inductive Source
  | table (t : Term)
  | join (kind : Join) (operands : List Term)

namespace Source

/-- The sources that a call contributes. -/
def ofCall (call : Call Term) : List Source :=
  match call.clause with
  | .table => call.operands.map .table
  | .join kind => [.join kind call.operands]
  | _ => []

/-- The sources of a log. -/
def ofLog (log : Log Term) : List Source := log.flatMap ofCall

/-- The condition of a join, which every join but a cross join has. -/
def joinCondition (kind : Join) : Option Condition → Except Error Fragment
  | none =>
    if kind = .cross then .ok Fragment.empty else .error (.validation .joinWithoutCondition)
  | some c =>
    if kind = .cross then .error (.validation .crossJoinCondition)
    else .ok (Fragment.ofSql " on " ++ c.render)

/-- The text of a join, with the blank in front of it. -/
def joinText (config : Config) (kind : Join) : List Term → Except Error Fragment
  | [] => .error (.validation .joinWithoutTarget)
  | target :: conditions => do
    let item ← target.item
    let condition ← Condition.anyOf config conditions
    return Fragment.ofSql (" " ++ kind.keyword ++ " ") ++ item ++ (← joinCondition kind condition)

/-- Adds the text of one more source to the texts before it, nearest first. Nothing stands before
a source as long as no text does. -/
def extend (config : Config) (before : List Fragment) : Source → Except Error (List Fragment)
  | .table t =>
    t.item.map fun item =>
      if !before.isEmpty then item :: Fragment.ofSql ", " :: before
      else if item.isEmpty then [] else [item]
  | .join kind operands =>
    if before.isEmpty then .error (.validation .joinWithoutSource)
    else (joinText config kind operands).map (· :: before)

/-- The text of all sources. -/
def list (config : Config) (sources : List Source) : Except Error Fragment :=
  (sources.foldlM (extend config) []).map fun texts => Fragment.concat texts.reverse

/-- The target of a mutation and the sources beside it. -/
def splitTarget : List Source → Except Error (Term × List Source)
  | .table target :: rest => .ok (target, rest)
  | .join .. :: _ => .error (.validation .joinWithoutSource)
  | [] => .error (.validation .noTarget)

end Source

end SqlBuilder
