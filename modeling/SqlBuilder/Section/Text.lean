import SqlBuilder.Section.Assignment
import SqlBuilder.Section.Basic
import SqlBuilder.Section.Insertion
import SqlBuilder.Section.Source

/-!
# The text of a section

`Section.text` writes one section from the calls of a log. A section that has nothing to say is
the empty fragment.
-/

namespace SqlBuilder

namespace Log

/-- The operands of all calls of a clause as a list behind a keyword. -/
def keyedList (log : Log Term) (clause : Clause) (keyword : String) : Except Error Fragment :=
  (Term.list (log.allOperands clause)).map (Fragment.headedUnlessEmpty keyword)

/-- The conjunction of the calls of a clause behind a keyword. -/
def keyedCondition (config : Config) (log : Log Term) (clause : Clause) (keyword : String) :
    Except Error Fragment := do
  let conditions ← (log.operandsOf clause).mapM (Condition.anyOf config)
  match Condition.conjoin (conditions.filterMap id) with
  | none => return Fragment.empty
  | some c => return Fragment.headed keyword c.render

/-- The operand of the last call of a clause behind a keyword. -/
def keyedLast (log : Log Term) (clause : Clause) (keyword : String) : Except Error Fragment :=
  match (log.operandsOf clause).getLast?.bind List.head? with
  | none => .ok Fragment.empty
  | some t => t.operand.map (Fragment.headed keyword)

/-- The common table expression of a name and a body. -/
def cteItem (entry : String × Term) : Except Error Fragment := do
  let name ← Ident.checked entry.1
  return Fragment.ofSql (name ++ " as ") ++ (← entry.2.body).parenthesized

/-- The common table expressions of one call. -/
def cteItems : List Term → Except Error (List Fragment)
  | [.raw name, body] => (cteItem (name, body)).map fun f => [f]
  | [t] =>
    match t.entries? with
    | some r => r.entries.mapM cteItem
    | none => .error (.validation .cteForm)
  | _ => .error (.validation .cteForm)

/-- All common table expressions. -/
def ctes (log : Log Term) : Except Error Fragment :=
  match log.operandsOf .cte with
  | [] => .ok Fragment.empty
  | calls =>
    (calls.mapM cteItems).map fun groups =>
      Fragment.headed "with" (Fragment.join groups.flatten ", ")

/-- The target of an `insert`, its columns and its values. -/
def insertion (config : Config) (log : Log Term) : Except Error Fragment := do
  let (target, others) ← Source.splitTarget (Source.ofLog log)
  if !others.isEmpty then .error (.validation .severalTargets)
  else
    let item ← target.item
    return (Fragment.headed "insert into" item).push " " ++ (← Insertion.list config log)

/-- The target of an `update` and its assignments. -/
def assignment (config : Config) (log : Log Term) : Except Error Fragment := do
  let (target, _) ← Source.splitTarget (Source.ofLog log)
  let assignments ← Assignment.list config log
  return (Fragment.headed "update" (← target.item)).push " " ++
    Fragment.headed "set" assignments

/-- The tables of an `update` beside its target. -/
def otherSources (config : Config) (log : Log Term) : Except Error Fragment := do
  let (_, others) ← Source.splitTarget (Source.ofLog log)
  return Fragment.headedUnlessEmpty "from" (← Source.list config others)

/-- The target of a `delete` and the tables beside it. -/
def deletion (config : Config) (log : Log Term) : Except Error Fragment := do
  let (target, others) ← Source.splitTarget (Source.ofLog log)
  let item ← target.item
  let beside ← Source.list config others
  return Fragment.headed "delete from" item ++ Fragment.headedUnlessEmpty " using" beside

end Log

/-- The text of a section of a log. -/
def Section.text (config : Config) (log : Log Term) : Section → Except Error Fragment
  | .ctes => log.ctes
  | .selection =>
    (Term.list (log.allOperands .output)).map fun columns =>
      if columns.isEmpty then Fragment.ofSql "select *" else Fragment.headed "select" columns
  | .sources => (Source.list config (Source.ofLog log)).map (Fragment.headedUnlessEmpty "from")
  | .filter => log.keyedCondition config .filter "where"
  | .grouping => log.keyedList .grouping "group by"
  | .having => log.keyedCondition config .having "having"
  | .ordering => log.keyedList .ordering "order by"
  | .limit => log.keyedLast .limit "limit"
  | .offset => log.keyedLast .offset "offset"
  | .insertion => log.insertion config
  | .assignment => log.assignment config
  | .otherSources => log.otherSources config
  | .deletion => log.deletion config
  | .returning => log.keyedList .output "returning"
  | .manual => ((log.allOperands .manual).mapM Term.body).map fun parts => Fragment.join parts " "

end SqlBuilder
