import SqlBuilder.Log
import SqlBuilder.Term.Condition

/-!
# Assignments

What an `update` sets: one equation per entry of a mapping, and whatever the caller wrote.
-/

namespace SqlBuilder.Assignment

/-- The assignments that a term stands for. -/
def ofTerm (config : Config) (t : Term) : Except Error (List Fragment) :=
  match t.entries? with
  | some r => r.entries.mapM config.equation
  | none => t.body.map fun f => [f]

/-- The assignments of a log, of which there has to be one. -/
def list (config : Config) (log : Log Term) : Except Error Fragment := do
  let groups ← (log.allOperands .assignment).mapM (ofTerm config)
  let assignments := Fragment.join groups.flatten ", "
  if assignments.isEmpty then .error (.validation .noAssignment) else .ok assignments

end SqlBuilder.Assignment
