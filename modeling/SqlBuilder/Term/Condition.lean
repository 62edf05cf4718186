import SqlBuilder.Config
import SqlBuilder.Term.Basic

/-!
# Conditions from terms

A mapping conjoins one comparison per entry, caller-written SQL is an opaque expression, a
sub-query is a comparison of its own, and a predicate is the condition it stands for. Mappings
without entries and predicates without operands give no condition at all.
-/

namespace SqlBuilder

/-- The column that a key names. -/
def Config.column (config : Config) (key : String) : Except Error String :=
  Ident.checked (config.inputKey key)

/-- A column, an equals sign and an operand. -/
def Config.equation (config : Config) (entry : String × Term) : Except Error Fragment := do
  let column ← config.column entry.1
  return Fragment.ofSql (column ++ " = ") ++ (← entry.2.operand)

namespace Condition

/-- The condition of one entry of a mapping: a predicate counts as it is, anything else is
compared with the column that the key names. -/
def ofEntry (config : Config) (entry : String × Term) : Except Error (Option Condition) :=
  match entry.2 with
  | .predicate condition => condition
  | .default => .error (.condition (.operandForKey .default entry.1))
  | .record _ => .error (.condition (.operandForKey .record entry.1))
  | _ => (config.equation entry).map fun f => some (.leaf f)

/-- The conjunction of the entries of a mapping. -/
def ofRecord (config : Config) (r : Record Term) : Except Error (Option Condition) :=
  (r.entries.mapM (ofEntry config)).map fun cs => conjoin (cs.filterMap id)

/-- The condition that a term stands for. -/
def ofTerm (config : Config) (t : Term) : Except Error (Option Condition) :=
  match t.entries? with
  | some r => ofRecord config r
  | none =>
    match t with
    | .template text => text.map fun f => some (.expr f)
    | .raw sql => .ok (some (.expr (Fragment.ofSql sql)))
    | .query body => body.map fun f => some (.leaf f.parenthesized)
    | .statement body => body.map fun f => some (.leaf f.parenthesized)
    | .predicate condition => condition
    | t => .error (.condition (.notCondition t.shape))

/-- The conditions of several terms, without those that give none. -/
def ofTerms (config : Config) (terms : List Term) : Except Error (List Condition) :=
  (terms.mapM (ofTerm config)).map fun cs => cs.filterMap id

/-- The negation of a term. -/
def noneOf (config : Config) (t : Term) : Except Error (Option Condition) :=
  (ofTerm config t).map fun c => c.map .not

/-- The conjunction of terms. -/
def allOf (config : Config) (terms : List Term) : Except Error (Option Condition) :=
  (ofTerms config terms).map conjoin

/-- The disjunction of terms, which is also what the operands of one call mean. -/
def anyOf (config : Config) (terms : List Term) : Except Error (Option Condition) :=
  (ofTerms config terms).map disjoin

end Condition

end SqlBuilder
