import SqlBuilder.Clause
import SqlBuilder.Term.Basic

/-!
# Places of operands

What becomes of a value depends on the `Place` where it stands. A single operand becomes a
parameter whatever the value is. Where a mapping may be given, a JSON object is read as one, and
in an aliased row a text is an identifier. A value that is not read is a parameter.
-/

namespace SqlBuilder

/-- Where an operand stands. -/
inductive Place
  /-- A single operand, where every value is a parameter. -/
  | operand
  /-- A position that reads mappings: conditions, assignments, common table expressions. -/
  | mapping
  /-- An item of a list, where a mapping is a row of aliased items. -/
  | item
  /-- An entry of a row of aliased items, where a text is an identifier. -/
  | alias
  deriving DecidableEq

/-- Where the entries of a mapping stand. -/
def Place.entry : Place → Place
  | .item => .alias
  | _ => .operand

/-- The parameter that a value becomes by itself: a text in an aliased row is none. -/
def Value.single : Place → Value → List Value
  | .alias, .text _ => []
  | _, v => [v]

/-- The parameters that a value becomes: where mappings are read, a JSON object becomes its
members. -/
def Value.parameters : Place → Value → List Value
  | .mapping, .json (.object members) =>
    members.entries.flatMap fun m => (Value.ofJson m.2).single .operand
  | .item, .json (.object members) =>
    members.entries.flatMap fun m => (Value.ofJson m.2).single .alias
  | place, v => v.single place

/-- Whether the value itself is read to find out what to write: where mappings are read, a JSON
object is one, and in an aliased row a text is an identifier. -/
def Value.isRead : Place → Value → Bool
  | .mapping, .json (.object _) | .item, .json (.object _) | .alias, .text _ => true
  | _, _ => false

namespace Value

variable {place : Place} {v : Value}

theorem eq_object_of_isRead (reads : place = .mapping ∨ place = .item) (h : v.isRead place) :
    ∃ members, v = .json (.object members) := by
  unfold isRead at h
  split at h
  · exact ⟨_, rfl⟩
  · exact ⟨_, rfl⟩
  · simp at reads
  · cases h

theorem eq_text_of_isRead (h : v.isRead .alias) : ∃ name, v = .text name := by
  unfold isRead at h
  split at h
  · contradiction
  · contradiction
  · exact ⟨_, rfl⟩
  · cases h

/-- A value that is not read is passed on as a parameter. -/
theorem parameters_of_not_isRead (h : v.isRead place = false) : v.parameters place = [v] := by
  unfold parameters
  split
  · cases h
  · cases h
  · unfold single
    split
    · cases h
    · rfl

/-- The parameters of a JSON object where a mapping is read. -/
theorem parameters_object (reads : place = .mapping ∨ place = .item) (members : Record Json) :
    (Value.json (.object members)).parameters place =
      members.entries.flatMap fun m => (Value.ofJson m.2).parameters place.entry := by
  rcases reads with rfl | rfl <;> rfl

end Value

namespace Term

variable {place : Place} {v : Value}

/-- A value that is not read is no mapping. -/
theorem entries?_value (reads : place = .mapping ∨ place = .item) (h : v.isRead place = false) :
    (Term.value v).entries? = none := by
  unfold entries?
  split
  · contradiction
  · rename_i heq
    cases heq
    rcases reads with rfl | rfl <;> cases h
  · rfl

/-- A value that is not read is a parameter in an aliased row, too. -/
theorem source_value (h : v.isRead .alias = false) :
    (Term.value v).source = .ok (Fragment.ofValue v) := by
  unfold source
  split
  · rename_i heq
    cases heq
    cases h
  · rfl

end Term

/-- Where the operands of a call stand. -/
def Clause.place : Clause → Nat → Place
  | .filter, _ | .having, _ | .assignment, _ | .cte, 0 | .join _, _ + 1 => .mapping
  | .output, _ | .grouping, _ | .ordering, _ | .columns, _ | .table, _ | .join _, 0 => .item
  | .limit, _ | .offset, _ | .rows, _ | .manual, _ | .deletion, _ | .cte, _ + 1 => .operand

end SqlBuilder
