import SqlBuilder.Proofs.Hole.Mapping
import SqlBuilder.Proofs.Hole.Section
import SqlBuilder.Proofs.Reading

/-!
# JSON objects as mappings and as parameters

A JSON object may be given wherever a record may, and what becomes of it depends on the position
alone. Where mappings are read it is the record of its members. Where a single operand is written
it is one parameter: any other value there gives the same text and the same parameters beside it.

Not every operand of a query is written. An entry of a row is replaced by a later entry for the same
column, and of limits, offsets and declarations of columns only the last one counts. Two
declarations of columns are compared with each other, parameters included, so the value of a
parameter among columns may decide whether they are refused.
-/

namespace SqlBuilder

variable {v w : Value}

/-! ### Fragments -/

namespace Fragment

/-- A parameter is written as its number, whatever its value is. -/
theorem numbered_swaps {ss ts : List (Char ⊕ Value)}
    (h : OneChange (fun a b => a = .inr v ∧ b = .inr w) ss ts) (next : Nat) :
    numbered next ss = numbered next ts := by
  obtain ⟨before, _, _, after, rfl, rfl, rfl, rfl⟩ := h
  rw [numbered_append, numbered_append, numbered_param, numbered_param]

theorem Swaps.toSql_eq {f g : Fragment} (h : f.Swaps v w g) : f.toSql = g.toSql := by
  apply String.toList_inj.1
  rw [toList_toSql, toList_toSql, numbered_swaps h]

end Fragment

/-- The same kind and the same text, and the same parameters but for one: `v` in the one statement
and `w` in the other. -/
structure Compiled.Swaps (v w : Value) (c c' : Compiled) : Prop where
  kind_eq : c.kind = c'.kind
  text_eq : c.statement.text = c'.statement.text
  args : ∃ before after,
    c.statement.args = before ++ v :: after ∧ c'.statement.args = before ++ w :: after

/-! ### Contexts -/

/-- What a context gives for two values. -/
abbrev Operand.Context.Swapped (v w : Value) (place : Place) (C : Operand → Operand) : Prop :=
  ∀ config : Config,
    ((C (.value v)).term config).Swaps v w place ((C (.value w)).term config)

/-- What a query with a hole gives for two values. -/
abbrev Query.Context.Swapped (v w : Value) (Q : Operand → Query Operand) : Prop :=
  Follows (fun s s' => s.1 = s'.1 ∧ s.2.Swaps v w s'.2) (Q (.value v)).statement
    (Q (.value w)).statement

theorem Query.rowOperand_value (h : v.isRead .mapping = false) :
    rowOperand (.value v) = .value v := by
  unfold rowOperand
  split
  · rename_i heq
    cases heq
    cases h
  · rfl

/-- A value that is not read in the hole of a query is one parameter of its statement. -/
theorem Query.Context.statement_swaps {hole : Place} {Q : Operand → Query Operand}
    (h : Query.Context True hole Q) (left : v.isRead hole = false)
    (right : w.isRead hole = false) : Query.Context.Swapped v w Q := by
  refine Query.Context.rec
    (motive_1 := fun place C _ => Operand.Context.Swapped v w place C)
    (motive_2 := fun Q _ => Query.Context.Swapped v w Q)
    ?hole ?slot ?entry ?not ?all ?any ?query ?call ?row ?cell h
  case hole => exact fun config => .value left right
  case slot =>
    intro place C parts before after _ ih config
    simp only [term_template, List.map_append, List.map_cons]
    exact .template (swaps_render parts (.at_hole _ _ (ih config)))
  case entry =>
    intro place C before key after reads _ ih config
    simp only [term_record, List.map_append, List.map_cons]
    exact .record _ key _ (reads trivial) (ih config)
  case not =>
    intro place C _ ih config
    simp only [term_not]
    exact .predicate (Condition.swaps_noneOf config (ih config))
  case all =>
    intro place C before after _ ih config
    simp only [term_all, List.map_append, List.map_cons]
    exact .predicate (Condition.swaps_allOf config (.at_hole _ _ (ih config)))
  case any =>
    intro place C before after _ ih config
    simp only [term_any, List.map_append, List.map_cons]
    exact .predicate (Condition.swaps_anyOf config (.at_hole _ _ (ih config)))
  case query =>
    intro place Q _ ih config
    simp only [term_query]
    exact .query (ih.map fun _ _ same => same.2)
  case call =>
    intro C config F kept _ ih
    rw [Query.Context.Swapped, Query.statement_fill, Query.statement_fill]
    exact Log.Frame.swaps_statement config _ ((kept trivial).map _) (F.place_map _ ▸ ih config)
  case row =>
    intro config F rows mapping
    subst mapping
    rw [Query.Context.Swapped, Query.rowOperand_value left, Query.rowOperand_value right,
      Query.statement_fill, Query.statement_fill]
    have place : (F.map (Operand.term config)).place = .operand := by
      rw [F.place_map, Log.Frame.place, rows]
      rfl
    have written : F.Written := by
      rw [Log.Frame.Written, rows]
      trivial
    -- a value that stays a value as it is recorded is an operand of the call
    refine Log.Frame.swaps_statement config _ (written.map _) ?_
    rw [place]
    exact .value rfl rfl
  case cell =>
    intro C config F rows before key after last _ ih
    simp only [Query.Context.Swapped, Query.statement_fill, term_record, List.map_append,
      List.map_cons]
    refine Log.Frame.swaps_statement_cell config _ rows _ key _ ?_ (ih config)
    exact List.forall_mem_map.2 (last trivial)

/-! ### Positions of the builder -/

/-- What is added to a conjunction or to a disjunction reads mappings. -/
theorem Operand.Context.extended {written : Prop} {hole place : Place} {C : Operand → Operand}
    (p : Predicate Operand) (h : Operand.Context written hole .mapping C) :
    Operand.Context written hole place (fun x => .predicate (p.and (C x))) ∧
      Operand.Context written hole place (fun x => .predicate (p.or (C x))) := by
  cases p with
  | not x => exact ⟨.all [.predicate (.not x)] [] h, .any [.predicate (.not x)] [] h⟩
  | all xs => exact ⟨.all xs [] h, .any [.predicate (.all xs)] [] h⟩
  | any xs => exact ⟨.all [.predicate (.any xs)] [] h, .any xs [] h⟩

namespace Query

/-- The calls that read mappings, with an operand still to be given. -/
def mappingCalls (q : Query Operand) (before after : List Operand) :
    List (Operand → Query Operand) :=
  [q.filter, q.having, fun x => q.filterAny (before ++ x :: after),
    fun x => q.havingAny (before ++ x :: after), q.set, q.insert,
    fun x => q.insertRows (before ++ x :: after), q.cteRecord]

namespace Context

variable {written : Prop} {hole : Place}

/-- An operand of a new call. -/
theorem push {C : Operand → Operand} (q : Query Operand) (clause : Clause)
    (before after : List Operand)
    (kept : written → Log.Frame.Written ⟨q.log, clause, before, after, []⟩)
    (h : Operand.Context written hole (clause.place before.length) C) :
    Context written hole fun x => q.push clause (before ++ C x :: after) := by
  have context := Query.Context.call q.config ⟨q.log, clause, before, after, []⟩ kept h
  simpa only [Log.Frame.fill, ← push_ofLog, ofLog_log] using context

/-- A row of a new call. -/
theorem pushRow (q : Query Operand) (before after : List Operand) :
    Context written .mapping fun x => q.push .rows (before ++ rowOperand x :: after) := by
  have context : Context written .mapping fun x =>
      ofLog q.config (Log.Frame.fill ⟨q.log, .rows, before, after, []⟩ (rowOperand x)) :=
    .row q.config _ rfl rfl
  simpa only [Log.Frame.fill, ← push_ofLog, ofLog_log] using context

/-- An entry of a row of a new call. -/
theorem pushCell {C : Operand → Operand} (q : Query Operand) (before : List (String × Operand))
    (key : String) (after : List (String × Operand))
    (kept : written → ∀ e ∈ after, q.config.inputKey e.1 ≠ q.config.inputKey key)
    (h : Operand.Context written hole .operand C) :
    Context written hole fun x => q.insert (.record ⟨before ++ (key, C x) :: after⟩) := by
  change Context written hole fun x => q.push .rows [.record ⟨before ++ (key, C x) :: after⟩]
  have context := Query.Context.cell q.config ⟨q.log, .rows, [], [], []⟩ rfl before key after kept h
  simpa only [Log.Frame.fill, ← push_ofLog, ofLog_log, List.nil_append] using context

/-- Calls may follow the one that has the hole. -/
theorem followed {Q : Operand → Query Operand} (h : Context False hole Q) (clause : Clause)
    (operands : List Operand) : Context False hole fun x => (Q x).push clause operands := by
  let longer (F : Log.Frame Operand) : Log.Frame Operand :=
    { F with later := F.later ++ [⟨clause, operands⟩] }
  have pushed (config : Config) (F : Log.Frame Operand) (x : Operand) :
      (ofLog config (F.fill x)).push clause operands = ofLog config ((longer F).fill x) := by
    rw [push_ofLog]
    simp [longer, Log.Frame.fill]
  cases h with
  | call config F _ h =>
    simp only [pushed]
    exact .call config (longer F) False.elim h
  | row config F rows mapping =>
    simp only [pushed]
    exact .row config (longer F) rows mapping
  | cell config F rows before key after _ h =>
    simp only [pushed]
    exact .cell config (longer F) rows before key after False.elim h

/-- The calls that read mappings are contexts that do. -/
theorem mappingCall (q : Query Operand) (before after : List Operand) :
    ∀ Q ∈ q.mappingCalls before after, Context False .mapping Q := by
  have operand (clause : Clause) (before after : List Operand)
      (reads : clause.place before.length = .mapping) :
      Context False .mapping fun x => q.push clause (before ++ x :: after) :=
    push q clause before after nofun (reads ▸ .hole)
  have rows : Context False .mapping fun x =>
      q.push .rows (before.map rowOperand ++ rowOperand x :: after.map rowOperand) :=
    pushRow q _ _
  simp only [mappingCalls, List.forall_mem_cons]
  refine ⟨operand .filter [] [] rfl, operand .having [] [] rfl, operand .filter before after rfl,
    operand .having before after rfl, operand .assignment [] [] rfl, pushRow q [] [], ?_,
    operand .cte [] [] rfl, nofun⟩
  simpa [insertRows] using rows

end Context

/-! ### Objects -/

/-- Where mappings are read, a JSON object and its record compile alike, to the same statement or
the same error. Where a single operand is written, the object is one parameter: with any other value
that is not read there the query compiles to the same text and the same parameters beside it, or
fails with the same error, unless one of the two is refused because it declares its columns
differently. -/
theorem object_interchangeable {j : Json} {r : Record Operand} (h : Record.ofJson j = .ok r) :
    (∀ Q, Context False .mapping Q → (Q (.value (.json j))).compile = (Q (.record r)).compile) ∧
    (∀ q before after, ∀ Q ∈ mappingCalls q before after, Context False .mapping Q) ∧
    ∀ Q hole, hole = .operand ∨ hole = .alias → Context True hole Q →
      ∀ w : Value, w.isRead hole = false →
        AgreeUnless (.arity .columnLists) (Compiled.Swaps (.json j) w)
          (Q (.value (.json j))).compile (Q (.value w)).compile := by
  obtain ⟨members, rfl, rfl⟩ : ∃ members, j = .object members ∧ r = Record.ofMembers members := by
    cases j with
    | object members => exact ⟨members, rfl, (Except.ok.inj h).symm⟩
    | _ => cases h
  refine ⟨?_, Context.mappingCall, ?_⟩
  · intro Q context
    rw [compile, compile, context.statement_object members]
  · intro Q hole single context w unread
    have left : (Value.json (.object members)).isRead hole = false := by
      rcases single with rfl | rfl <;> rfl
    refine (context.statement_swaps left unread).map fun s s' swap => ?_
    exact ⟨swap.1, swap.2.toSql_eq, swap.2.args⟩

/-- A person as a JSON object. -/
def person : Json := .object ⟨[("firstName", .string "Ann"), ("age", .int 40)]⟩

/-- Users but for those that a mapping describes. -/
def usersBut (x : Operand) : Query Operand :=
  (((Query.new Config.default).table "users").select "id").filter
    (.predicate (Predicate.and (.any [.raw "active", .raw "invited"]) (.predicate (.not x))))

/-- Orders of these users. -/
def ordersBut (x : Operand) : Query Operand :=
  (((Query.new Config.default).table "orders").filter
    (.template ⟨["user_id in ", ""], [.query (usersBut x)]⟩)).limit (.value (.int 5))

/-- A new event with its payload. -/
def newEvent (x : Operand) : Query Operand :=
  ((Query.new Config.identity).table "events").insert
    (.record ⟨[("id", .value (.int 7)), ("payload", x)]⟩)

theorem object_interchangeable_person :
    let r : Record Operand := ⟨[("firstName", .value (.text "Ann")), ("age", .value (.int 40))]⟩
    Record.ofJson person = .ok r ∧
    (ordersBut (.value (.json person))).compile = (ordersBut (.record r)).compile ∧
    AgreeUnless (.arity .columnLists) (Compiled.Swaps (.json person) .null)
      (newEvent (.value (.json person))).compile (newEvent (.value .null)).compile ∧
    ∃ c, (newEvent (.value (.json person))).compile = .ok c ∧
      c.statement = ⟨"insert into events (id, payload) values ($1, $2)",
        [.int 7, .json person]⟩ := by
  intro r
  have users : Context False .mapping usersBut :=
    .push _ .filter [] [] nofun (Operand.Context.extended _ (.not .hole)).1
  have orders : Context False .mapping ordersBut :=
    .followed (.push _ .filter [] [] nofun (.slot ["user_id in ", ""] [] [] (.query users))) .limit
      [.value (.int 5)]
  have event : Context True .operand newEvent :=
    .pushCell _ [("id", .value (.int 7))] "payload" [] nofun .hole
  have read : Record.ofJson person = .ok r := rfl
  obtain ⟨mapping, -, operand⟩ := object_interchangeable read
  exact ⟨read, mapping ordersBut orders, operand newEvent .operand (.inl rfl) event .null rfl,
    _, rfl, rfl⟩

/-- A row that names one column by two keys. -/
def renamed (x : Operand) : Query Operand :=
  let config := { Config.default with
    inputKey := fun key => if key = "firstName" then "first_name" else key }
  ((Query.new config).table "users").insert
    (.record ⟨[("firstName", x), ("first_name", .value (.int 1))]⟩)

/-- A limit in front of another one. -/
def limited (x : Operand) : Query Operand :=
  (((Query.new Config.default).table "users").limit (.template ⟨["", " - 1"], [x]⟩)).limit
    (.value (.int 5))

/-- An object is no parameter where a later entry of the row, or a later call, takes its place. -/
theorem object_replaced :
    Context False .operand renamed ∧ Context False .operand limited ∧
    (∃ c, (renamed (.value (.json person))).compile = .ok c ∧
      c.statement = ⟨"insert into users (first_name) values ($1)", [.int 1]⟩) ∧
    ∃ c, (limited (.value (.json person))).compile = .ok c ∧
      c.statement = ⟨"select * from users limit $1", [.int 5]⟩ := by
  have entry : Context False .operand renamed :=
    .pushCell _ [] "firstName" [("first_name", .value (.int 1))] nofun .hole
  have slot : Context False .operand limited :=
    .followed (.push _ .limit [] [] nofun (.slot ["", " - 1"] [] [] .hole)) .limit [.value (.int 5)]
  exact ⟨entry, slot, ⟨_, rfl, rfl⟩, _, rfl, rfl⟩

end Query

end SqlBuilder
