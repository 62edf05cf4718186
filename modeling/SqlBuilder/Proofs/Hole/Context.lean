import SqlBuilder.Proofs.Operand
import SqlBuilder.Proofs.Place

/-!
# Queries with a hole

A context is a query or an operand with a hole in it, given as the function that fills the hole. It
goes down from the outermost query through calls, templates, mappings and predicates, and the
`Place` at the hole says how an operand is read there. A row to insert is a position of its own: a
JSON object becomes a mapping when the row is recorded.

A context may be required to be `written`: then it stays away from the operands that never come to
be written, because a later call, or a later entry of the row for the same column, takes their
place.
-/

namespace SqlBuilder

/-- A log with a hole among the operands of one of its calls. -/
structure Log.Frame (α : Type) where
  earlier : Log α
  clause : Clause
  before : List α
  after : List α
  later : Log α

namespace Log.Frame

variable {α β : Type} (F : Frame α)

/-- The log with an operand in the hole. -/
def fill (x : α) : Log α := F.earlier ++ ⟨F.clause, F.before ++ x :: F.after⟩ :: F.later

/-- Where the hole is. -/
def place : Place := F.clause.place F.before.length

/-- Whether what stands in the hole is written: of limits, offsets and declarations of columns only
the last call counts. -/
def Written : Prop :=
  match F.clause with
  | .limit | .offset => F.before = [] ∧ ∀ call ∈ F.later, call.clause ≠ F.clause
  | .columns => ∀ call ∈ F.later, call.clause ≠ .columns
  | .deletion => False
  | _ => True

namespace Written

variable {F : Frame α} (h : F.Written)

include h

/-- A limit or an offset that is written is the first operand of the last call of its clause. -/
theorem last (single : F.clause = .limit ∨ F.clause = .offset) :
    F.before = [] ∧ ∀ call ∈ F.later, call.clause ≠ F.clause := by
  unfold Written at h
  rcases single with single | single
  all_goals rwa [single] at h ⊢

/-- Behind columns that are written no others are declared. -/
theorem columns (declares : F.clause = .columns) : ∀ call ∈ F.later, call.clause ≠ .columns := by
  rwa [Written, declares] at h

/-- A deletion writes no operands. -/
theorem ne_deletion : F.clause ≠ .deletion := by
  intro marker
  rwa [Written, marker] at h

end Written

/-- The frame with its operands changed. -/
def map (f : α → β) : Frame β :=
  ⟨F.earlier.map (Call.map f), F.clause, F.before.map f, F.after.map f, F.later.map (Call.map f)⟩

/-- Changing all operands changes those of the frame and the one in its hole. -/
theorem map_fill (f : α → β) (x : α) : (F.fill x).map (Call.map f) = (F.map f).fill (f x) := by
  simp [fill, map, Call.map]

theorem place_map (f : α → β) : (F.map f).place = F.place := by
  simp [place, map]

theorem Written.map {F : Frame α} (h : F.Written) (f : α → β) : (F.map f).Written := by
  obtain ⟨earlier, clause, before, after, later⟩ := F
  cases clause with
  | limit | offset =>
    obtain ⟨rfl, last⟩ := h
    exact ⟨rfl, List.forall_mem_map.2 last⟩
  | columns => exact List.forall_mem_map.2 h
  | _ => exact h

/-! What is in the hole makes no difference to the calls of other clauses. -/

theorem clauses_fill (x y : α) : (F.fill x).map Call.clause = (F.fill y).map Call.clause := by
  simp [fill]

theorem uses_fill (x y : α) (p : Clause → Bool) : (F.fill x).uses p = (F.fill y).uses p := by
  rw [Log.uses_eq, F.clauses_fill x y, Log.uses_eq]

/-- The call with the hole, between the earlier and the later calls of its clause. -/
theorem operandsOf_fill (x : α) :
    (F.fill x).operandsOf F.clause = F.earlier.operandsOf F.clause ++
      (F.before ++ x :: F.after) :: F.later.operandsOf F.clause := by
  simp [fill, Log.operandsOf]

theorem operandsOf_fill_of_ne {clause : Clause} (other : F.clause ≠ clause) (x y : α) :
    (F.fill x).operandsOf clause = (F.fill y).operandsOf clause := by
  simp [fill, Log.operandsOf, other]

end Log.Frame

/-- The query of a configuration and a log. -/
def Query.ofLog (config : Config) (log : Log Operand) : Query Operand := ⟨config, log.reverse⟩

/-- Every query is that of its configuration and its log. -/
theorem Query.ofLog_log (q : Query Operand) : Query.ofLog q.config q.log = q := by
  simp [ofLog, log]

theorem Query.push_ofLog (config : Config) (log : Log Operand) (clause : Clause)
    (operands : List Operand) :
    (ofLog config log).push clause operands = ofLog config (log ++ [⟨clause, operands⟩]) := by
  simp [ofLog, push]

/-- The statement of a query with a filled hole is that of its terms with a filled hole. -/
theorem Query.statement_fill (config : Config) (F : Log.Frame Operand) (x : Operand) :
    (Query.ofLog config (F.fill x)).statement =
      Log.statement config ((F.map (Operand.term config)).fill (x.term config)) := by
  rw [statement_eq_map, ← F.map_fill]
  simp [ofLog, log]

mutual

/-- An operand with a hole in it, at a place. -/
inductive Operand.Context (written : Prop) (hole : Place) : Place → (Operand → Operand) → Prop
  | hole : Operand.Context written hole hole id
  /-- A slot of a template. -/
  | slot {place : Place} {C : Operand → Operand} (parts : List String) (before after : List Operand)
      (h : Operand.Context written hole .operand C) :
      Operand.Context written hole place fun x => .template ⟨parts, before ++ C x :: after⟩
  /-- An entry of a mapping. -/
  | entry {place : Place} {C : Operand → Operand} (before : List (String × Operand)) (key : String)
      (after : List (String × Operand)) (reads : written → place = .mapping ∨ place = .item)
      (h : Operand.Context written hole place.entry C) :
      Operand.Context written hole place fun x => .record ⟨before ++ (key, C x) :: after⟩
  | not {place : Place} {C : Operand → Operand} (h : Operand.Context written hole .mapping C) :
      Operand.Context written hole place fun x => .predicate (.not (C x))
  | all {place : Place} {C : Operand → Operand} (before after : List Operand)
      (h : Operand.Context written hole .mapping C) :
      Operand.Context written hole place fun x => .predicate (.all (before ++ C x :: after))
  | any {place : Place} {C : Operand → Operand} (before after : List Operand)
      (h : Operand.Context written hole .mapping C) :
      Operand.Context written hole place fun x => .predicate (.any (before ++ C x :: after))
  | query {place : Place} {Q : Operand → Query Operand} (h : Query.Context written hole Q) :
      Operand.Context written hole place fun x => .query (Q x)

/-- A query with a hole in it. -/
inductive Query.Context (written : Prop) (hole : Place) : (Operand → Query Operand) → Prop
  /-- An operand of a call. -/
  | call {C : Operand → Operand} (config : Config) (F : Log.Frame Operand)
      (kept : written → F.Written) (h : Operand.Context written hole F.place C) :
      Query.Context written hole fun x => .ofLog config (F.fill (C x))
  /-- A row to insert, which is looked at when it is recorded. -/
  | row (config : Config) (F : Log.Frame Operand) (rows : F.clause = .rows)
      (mapping : hole = .mapping) :
      Query.Context written hole fun x => .ofLog config (F.fill (Query.rowOperand x))
  /-- An entry of a row to insert. -/
  | cell {C : Operand → Operand} (config : Config) (F : Log.Frame Operand) (rows : F.clause = .rows)
      (before : List (String × Operand)) (key : String) (after : List (String × Operand))
      (kept : written → ∀ e ∈ after, config.inputKey e.1 ≠ config.inputKey key)
      (h : Operand.Context written hole .operand C) :
      Query.Context written hole fun x =>
        .ofLog config (F.fill (.record ⟨before ++ (key, C x) :: after⟩))

end

end SqlBuilder
