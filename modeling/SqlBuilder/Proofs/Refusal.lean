import Mathlib.Tactic.SplitIfs
import SqlBuilder.Proofs.Exclusion
import SqlBuilder.Proofs.Forms

/-!
# Why compiling fails

A term keeps the errors of its nested parts (`Term.Careful`), and each function on terms fails with
one of these errors or with a fault of its own operands (`Error.isFault`). A statement can further
mix kinds or lack its target. So the errors that a query raises are those that it has reason for,
itself or somewhere inside (`Query.raises_compile`), and all of them are compile errors
(`Query.refuses_compile`).
-/

namespace SqlBuilder

/-- Whether the error is about operands: conditions, columns and rows, or operands out of place. -/
def Error.isFault : Error → Bool
  | .arity _ | .condition _ | .validation _ => true
  | _ => false

/-- Faults of operands arise while a query is compiled. -/
theorem Error.isCompileError_of_isFault {e : Error} (h : e.isFault) : e.isCompileError := by
  cases e with
  | arity | condition | validation => rfl
  | _ => cases h

variable {P : Error → Prop}

/-- The parts nested in the term are compiled, or failed with an error that has the property. -/
abbrev Term.Careful (P : Error → Prop) (t : Term) : Prop :=
  t.Holds (FailsWith P) (FailsWith P) (FailsWith P)

section

variable (own : ∀ e : Error, e.isFault → P e)

include own

/-! ### Terms -/

/-- A key that is no identifier is a fault. -/
theorem refuses_checked (text : String) : FailsWith P (Ident.checked text) := by
  unfold Ident.checked
  split
  · exact .ok _
  · exact .error (own _ rfl)

namespace Term.Careful

variable {t : Term}

/-- Mappings and empty predicates are no operands. Any other error is that of the nested part. -/
theorem operand (h : t.Careful P) : FailsWith P t.operand := by
  cases h with
  | value | default | raw => exact .ok _
  | template refuses => exact refuses
  | query refuses | statement refuses => exact refuses.map _
  | record => exact .error (own _ rfl)
  | predicate refuses =>
    refine refuses.bind fun c _ => ?_
    cases c with
    | none => exact .error (own _ rfl)
    | some c => exact .ok _

/-- Only SQL makes up a body. -/
theorem body (h : t.Careful P) : FailsWith P t.body := by
  cases h with
  | raw => exact .ok _
  | template refuses | query refuses | statement refuses => exact refuses
  | value | default | record | predicate => exact .error (own _ rfl)

theorem aliased {e : String × Term} (h : e.2.Careful P) : FailsWith P (Term.aliased e) := by
  have source : FailsWith P e.2.source := by
    unfold Term.source
    split
    · exact (refuses_checked own _).map _
    · exact h.operand own
  exact (refuses_checked own _).bind fun name _ => source.bind fun f _ => .ok _

theorem item (h : t.Careful P) : FailsWith P t.item := by
  unfold Term.item
  split
  · rename_i r hr
    exact (FailsWith.mapM fun e he => aliased own (h.entries? hr e he)).map _
  · exact h.operand own

theorem list {ts : List Term} (h : ∀ t ∈ ts, t.Careful P) : FailsWith P (Term.list ts) :=
  (FailsWith.mapM fun t ht => (h t ht).item own).map _

/-! ### Conditions -/

variable (config : Config)

theorem equation {e : String × Term} (h : e.2.Careful P) : FailsWith P (config.equation e) :=
  (refuses_checked own _).bind fun _ _ => (h.operand own).bind fun _ _ => .ok _

/-- A key cannot be compared with `default` or with a mapping. -/
theorem ofEntry {e : String × Term} (h : e.2.Careful P) :
    FailsWith P (Condition.ofEntry config e) := by
  have compared : FailsWith P ((config.equation e).map fun f => some (Condition.leaf f)) :=
    (equation own config h).map _
  obtain ⟨key, t⟩ := e
  cases h with
  | predicate refuses => exact refuses
  | default | record => exact .error (own _ rfl)
  | _ => exact compared

/-- A single value and `default` make no condition. -/
theorem ofTerm (h : t.Careful P) : FailsWith P (Condition.ofTerm config t) := by
  unfold Condition.ofTerm
  split
  · rename_i r hr
    exact (FailsWith.mapM fun e he => ofEntry own config (h.entries? hr e he)).map _
  · cases h with
    | raw => exact .ok _
    | template refuses | query refuses | statement refuses => exact refuses.map _
    | predicate refuses => exact refuses
    | value | default | record => exact .error (own _ rfl)

theorem ofTerms {ts : List Term} (h : ∀ t ∈ ts, t.Careful P) :
    FailsWith P (Condition.ofTerms config ts) :=
  (FailsWith.mapM fun t ht => ofTerm own config (h t ht)).map _

theorem noneOf (h : t.Careful P) : FailsWith P (Condition.noneOf config t) :=
  (ofTerm own config h).map _

theorem allOf {ts : List Term} (h : ∀ t ∈ ts, t.Careful P) :
    FailsWith P (Condition.allOf config ts) :=
  (ofTerms own config h).map _

theorem anyOf {ts : List Term} (h : ∀ t ∈ ts, t.Careful P) :
    FailsWith P (Condition.anyOf config ts) :=
  (ofTerms own config h).map _

end Term.Careful

/-! ### Sources -/

namespace Source

variable (config : Config)

/-- A join may lack its target, lack a condition or have one too many. -/
theorem refuses_joinText (kind : Join) {ts : List Term} (h : ∀ t ∈ ts, t.Careful P) :
    FailsWith P (joinText config kind ts) := by
  have condition (c : Option Condition) : FailsWith P (joinCondition kind c) := by
    cases c with
    | none =>
      unfold joinCondition
      split_ifs
      · exact .ok _
      · exact .error (own _ rfl)
    | some c =>
      unfold joinCondition
      split_ifs
      · exact .error (own _ rfl)
      · exact .ok _
  cases ts with
  | nil => exact .error (own _ rfl)
  | cons target conditions =>
    obtain ⟨careful, others⟩ := List.forall_mem_cons.1 h
    exact (careful.item own).bind fun item _ =>
      (Term.Careful.anyOf own config others).bind fun c _ =>
        (condition c).bind fun on _ => .ok _

theorem refuses_list {sources : List Source}
    (h : ∀ s ∈ sources, ∀ t ∈ s.operands, t.Careful P) : FailsWith P (list config sources) := by
  have step (s : Source) (hs : s ∈ sources) (before : List Fragment) :
      FailsWith P (extend config before s) := by
    have careful := h s hs
    cases s with
    | table t => exact ((careful t List.mem_cons_self).item own).map _
    | join kind ts =>
      by_cases first : before.isEmpty
      · rw [extend, if_pos first]
        exact .error (own _ rfl)
      · rw [extend, if_neg first]
        exact (refuses_joinText own config kind careful).map _
  exact (FailsWith.foldlM step []).map _

/-- A mutation may lack its target, or a join may come first. -/
theorem refuses_splitTarget (sources : List Source) : FailsWith P (splitTarget sources) := by
  unfold splitTarget
  split
  · exact .ok _
  · exact .error (own _ rfl)
  · exact .error (own _ rfl)

end Source

/-! ### Rows and assignments -/

namespace Insertion

variable (config : Config)

/-- Mappings and values by position do not go together in one call. -/
theorem refuses_rowForm (rows : List Term) : FailsWith P (rowForm rows) := by
  unfold rowForm
  split_ifs
  · exact .ok _
  · exact .error (own _ rfl)
  · exact .ok _

/-- Rows are made from mappings without a look at the operands in them. -/
theorem refuses_rowsOf (ts : List Term) : FailsWith P (rowsOf config ts) :=
  .mapM fun _ _ => .mapM fun _ _ => (refuses_checked own _).map _

omit own in
/-- The rows hold what the mappings do. -/
theorem careful_rowsOf {ts : List Term} (h : ∀ t ∈ ts, t.Careful P) :
    Ensures (rowsOf config ts) fun rows => ∀ row ∈ rows, ∀ e ∈ row, e.2.Careful P := by
  refine Ensures.mapM_forall fun r hr => ?_
  obtain ⟨t, ht, entries⟩ := List.mem_filterMap.1 hr
  refine Ensures.mapM_forall fun e he => ?_
  exact .map_any fun _ => (h t ht).entries? entries e he

/-- A column that a row lacks is written as `default`, so only an operand can fail. -/
theorem refuses_cell {row : Row} (h : ∀ e ∈ row, e.2.Careful P) (column : String) :
    FailsWith P (cell row column) := by
  unfold cell
  split
  · rename_i e found
    exact (h e (List.mem_reverse.1 (List.mem_of_find?_eq_some found))).operand own
  · exact .ok _

/-- Without any column there has to be exactly one row. -/
theorem refuses_ofRows {rows : List Row} (h : ∀ row ∈ rows, ∀ e ∈ row, e.2.Careful P) :
    FailsWith P (ofRows rows) := by
  have tuples : FailsWith P (rows.mapM fun row =>
      ((columnsOf rows).mapM (cell row)).map tuple) :=
    .mapM fun row hrow =>
      (FailsWith.mapM fun column _ => refuses_cell own (h row hrow) column).map _
  unfold ofRows
  simp only
  split_ifs
  · exact .error (own _ rfl)
  · exact .ok _
  · exact .error (own _ rfl)
  · exact tuples.bind fun _ _ => .ok _

/-- Each call adds a fault of its own or passes on the error of an operand. -/
theorem refuses_ofPositional {log : Log Term} (h : log.Every (Term.Careful P)) :
    FailsWith P (ofPositional log) := by
  have declare (p : Positional) {columns : List Term} (careful : ∀ t ∈ columns, t.Careful P) :
      FailsWith P (p.declare columns) := by
    refine (Term.Careful.list own careful).bind fun names _ => ?_
    split
    · split_ifs
      · exact .error (own _ rfl)
      · exact .ok _
    · exact .ok _
  have addRow (p : Positional) {values : List Term} (careful : ∀ t ∈ values, t.Careful P) :
      FailsWith P (p.addRow values) := by
    unfold Positional.addRow
    split
    · exact .error (own _ rfl)
    · split_ifs
      · exact .error (own _ rfl)
      · exact (FailsWith.mapM fun t ht => (careful t ht).operand own).map _
  have step (call : Call Term) (hcall : call ∈ log) (p : Positional) :
      FailsWith P (p.step call) := by
    unfold Positional.step
    split
    · exact declare p (h call hcall)
    · exact addRow p (h call hcall)
    · exact .ok _
  refine (FailsWith.foldlM step _).bind fun p _ => ?_
  unfold Positional.text
  split
  · exact .error (own _ rfl)
  · split_ifs
    · exact .error (own _ rfl)
    · exact .ok _

theorem refuses_list {log : Log Term} (h : log.Every (Term.Careful P)) :
    FailsWith P (list config log) := by
  refine (FailsWith.mapM fun rows _ => refuses_rowForm own rows).bind fun forms _ => ?_
  split_ifs
  · exact refuses_ofPositional own h
  · exact .error (own _ rfl)
  · refine (refuses_rowsOf own config _).bind fun rows hrows => ?_
    exact refuses_ofRows own (careful_rowsOf config (h.allOperands .rows) rows hrows)

end Insertion

/-- There has to be some assignment. -/
theorem Assignment.refuses_list (config : Config) {log : Log Term}
    (h : log.Every (Term.Careful P)) : FailsWith P (list config log) := by
  have ofTerm (t : Term) (careful : t.Careful P) : FailsWith P (ofTerm config t) := by
    unfold Assignment.ofTerm
    split
    · rename_i r hr
      exact .mapM fun e he => Term.Careful.equation own config (careful.entries? hr e he)
    · exact (careful.body own).map _
  refine (FailsWith.mapM fun t ht => ofTerm t (h.allOperands .assignment t ht)).bind fun _ _ => ?_
  simp only
  split_ifs
  · exact .error (own _ rfl)
  · exact .ok _

/-! ### Sections -/

namespace Log

variable (config : Config) {log : Log Term} (h : log.Every (Term.Careful P))

include h

theorem refuses_keyedList (clause : Clause) (keyword : String) :
    FailsWith P (log.keyedList clause keyword) :=
  (Term.Careful.list own (h.allOperands clause)).map _

theorem refuses_keyedCondition (clause : Clause) (keyword : String) :
    FailsWith P (log.keyedCondition config clause keyword) := by
  have conditions : FailsWith P ((log.operandsOf clause).mapM (Condition.anyOf config)) :=
    .mapM fun ts hts => Term.Careful.anyOf own config (h.operandsOf clause ts hts)
  refine conditions.bind fun cs _ => ?_
  split
  · exact .ok _
  · exact .ok _

/-- Only the operand of the last call is looked at. -/
theorem refuses_keyedLast (clause : Clause) (keyword : String) :
    FailsWith P (log.keyedLast clause keyword) := by
  unfold keyedLast
  split
  · exact .ok _
  · rename_i t last
    exact ((h.lastOperand clause t last).operand own).map _

/-- Each body needs an alias in front. -/
theorem refuses_ctes : FailsWith P log.ctes := by
  have cteItem {e : String × Term} (careful : e.2.Careful P) : FailsWith P (cteItem e) :=
    (refuses_checked own _).bind fun _ _ => (careful.body own).bind fun _ _ => .ok _
  have cteItems {ts : List Term} (careful : ∀ t ∈ ts, t.Careful P) :
      FailsWith P (cteItems ts) := by
    unfold Log.cteItems
    split
    · rename_i name body
      exact (cteItem (careful body (by simp))).map _
    · rename_i t
      split
      · rename_i r hr
        exact .mapM fun e he => cteItem ((careful t (by simp)).entries? hr e he)
      · exact .error (own _ rfl)
    · exact .error (own _ rfl)
  have operands := h.operandsOf .cte
  unfold ctes
  split
  · exact .ok _
  · exact (FailsWith.mapM fun ts hts => cteItems (operands ts hts)).map _

omit own in
/-- The target of a mutation and the sources beside it are careful. -/
theorem careful_splitTarget : Ensures (Source.splitTarget (Source.ofLog log)) fun parts =>
    parts.1.Careful P ∧ ∀ s ∈ parts.2, ∀ t ∈ s.operands, t.Careful P := by
  refine (Source.ensures_splitTarget _).mono fun parts split => ?_
  have sources := h.sources
  rw [split, List.forall_mem_cons] at sources
  exact ⟨sources.1 parts.1 List.mem_cons_self, sources.2⟩

/-- An insert has no sources beside its target. -/
theorem refuses_insertion : FailsWith P (log.insertion config) := by
  refine (Source.refuses_splitTarget own _).bind fun (target, others) split => ?_
  have careful := (careful_splitTarget h _ split).1
  simp only
  split_ifs
  · exact .error (own _ rfl)
  · exact (careful.item own).bind fun _ _ =>
      (Insertion.refuses_list own config h).bind fun _ _ => .ok _

theorem refuses_assignment : FailsWith P (log.assignment config) := by
  refine (Source.refuses_splitTarget own _).bind fun (target, others) split => ?_
  have careful := (careful_splitTarget h _ split).1
  exact (Assignment.refuses_list own config h).bind fun _ _ =>
    (careful.item own).bind fun _ _ => .ok _

theorem refuses_otherSources : FailsWith P (log.otherSources config) := by
  refine (Source.refuses_splitTarget own _).bind fun (target, others) split => ?_
  have careful := (careful_splitTarget h _ split).2
  exact (Source.refuses_list own config careful).bind fun _ _ => .ok _

theorem refuses_deletion : FailsWith P (log.deletion config) := by
  refine (Source.refuses_splitTarget own _).bind fun (target, others) split => ?_
  obtain ⟨careful, beside⟩ := careful_splitTarget h _ split
  exact (careful.item own).bind fun _ _ =>
    (Source.refuses_list own config beside).bind fun _ _ => .ok _

/-- Every section fails for its own operands only. -/
theorem refuses_text (s : Section) : FailsWith P (s.text config log) := by
  cases s with
  | ctes => exact refuses_ctes own h
  | selection => exact (Term.Careful.list own (h.allOperands .output)).map _
  | sources => exact (Source.refuses_list own config h.sources).map _
  | filter => exact refuses_keyedCondition own config h .filter _
  | grouping => exact refuses_keyedList own h .grouping _
  | having => exact refuses_keyedCondition own config h .having _
  | ordering => exact refuses_keyedList own h .ordering _
  | limit => exact refuses_keyedLast own h .limit _
  | offset => exact refuses_keyedLast own h .offset _
  | insertion => exact refuses_insertion own config h
  | assignment => exact refuses_assignment own config h
  | otherSources => exact refuses_otherSources own config h
  | deletion => exact refuses_deletion own config h
  | returning => exact refuses_keyedList own h .output _
  | manual => exact (FailsWith.mapM fun t ht => (h.allOperands .manual t ht).body own).map _

end Log

/-- A placeholder of an embedded statement may have no argument. -/
theorem Statement.refuses_toFragment (s : Statement) : FailsWith P s.toFragment := by
  have argument (args : Array Value) (digits : List Char) :
      FailsWith P (argument args digits) := by
    unfold Statement.argument
    simp only
    split_ifs
    · exact .error (own _ rfl)
    · split
      · exact .error (own _ rfl)
      · split
        · exact .ok _
        · exact .error (own _ rfl)
  refine (FailsWith.mapM fun token _ => ?_).map _
  cases token with
  | text run => exact .ok _
  | placeholder digits => exact (argument _ digits).map _

end

/-! ### Queries -/

/-- The statement needs a target and has none: the first call that names tables names no table. -/
def Query.Untargeted (q : Query Operand) (kind : StatementKind) : Prop :=
  q.kind = .ok kind ∧ kind.needsTarget ∧ q.log.target? = none

/-- The check for a target does not look into the operands. -/
theorem Log.target?_map {α β : Type} (f : α → β) (log : Log α) :
    target? (log.map (Call.map f)) = log.target?.map f := by
  rw [target?, target?, operandsOf_map, List.head?_map]
  cases (log.operandsOf .table).head? with
  | none => rfl
  | some operands => exact List.head?_map

namespace Query

variable {q : Query Operand}

/-- Nor does the kind of a query depend on them. -/
theorem kind_eq (q : Query Operand) :
    Log.statementKind (q.log.map (Call.map (Operand.term q.config))) = q.kind := by
  refine Log.statementKind_eq ?_
  rw [List.map_map]
  rfl

/-- A statement fails for its operands, because it mixes kinds or because it lacks its target. -/
theorem refuses_statement (own : ∀ e : Error, e.isFault → P e)
    (mixed : ∀ first second, P (.conflictingKinds first second))
    (untargeted : ∀ kind, q.Untargeted kind → P (.missingTarget kind))
    (h : ∀ call ∈ q.history, ∀ x ∈ call.operands, (x.term q.config).Careful P) :
    FailsWith P q.statement := by
  have careful : Log.Every (Term.Careful P) (q.log.map (Call.map (Operand.term q.config))) :=
    .map fun call hcall => h call (List.mem_reverse.1 hcall)
  rw [statement_eq_map, Log.statement]
  rcases Log.statementKind_cases (q.log.map (Call.map (Operand.term q.config))) with
    ⟨⟨first, second, outcome⟩, -⟩ | ⟨⟨fault, outcome⟩, -⟩ | ⟨kind, outcome, -⟩
  all_goals rw [outcome]
  · exact .error (mixed first second)
  · exact .error (own _ rfl)
  · refine FailsWith.bind (.ok kind) fun kind' same => ?_
    cases same
    split
    · rename_i missing
      simp only [Log.target?_map, Option.isNone_map, Bool.and_eq_true,
        Option.isNone_iff_eq_none] at missing
      exact .error (untargeted kind ⟨q.kind_eq.symm.trans outcome, missing⟩)
    · exact (FailsWith.mapM fun s _ => Log.refuses_text own q.config careful s).bind
        fun _ _ => .ok _

end Query

namespace Operand

/-- All operands directly inside of an operand. -/
def children : Operand → List Operand
  | .template t => t.args
  | .query q => q.history.flatMap Call.operands
  | .record r => r.entries.map Prod.snd
  | .predicate (.not x) => [x]
  | .predicate (.all xs) => xs
  | .predicate (.any xs) => xs
  | _ => []

/-- The operand is the query, or the query stands somewhere inside of it. -/
inductive Encloses (p : Query Operand) : Operand → Prop
  | query : Encloses p (.query p)
  | inside {x y : Operand} (hy : y ∈ x.children) (h : Encloses p y) : Encloses p x

/-- The errors that compiling an operand can give. -/
inductive Raises (x : Operand) : Error → Prop
  | fault {e : Error} (h : e.isFault) : Raises x e
  | mixed (first second : StatementKind) : Raises x (.conflictingKinds first second)
  | untargeted {p : Query Operand} {kind : StatementKind} (inside : x.Encloses p)
    (h : p.Untargeted kind) : Raises x (.missingTarget kind)

/-- What is inside of an operand is careful for the operand. -/
theorem careful_of_child {x y : Operand} {config : Config} (hy : y ∈ x.children)
    (h : (y.term config).Careful y.Raises) : (y.term config).Careful x.Raises := by
  have weaker : ∀ e, y.Raises e → x.Raises e := by
    intro e he
    cases he with
    | fault own => exact .fault own
    | mixed first second => exact .mixed first second
    | untargeted inside untargeted => exact .untargeted (.inside hy inside) untargeted
  exact h.mono (fun _ refuses => refuses.mono weaker) (fun _ refuses => refuses.mono weaker)
    fun _ refuses => refuses.mono weaker

/-- However deep inside an operand something goes wrong, the error has its reason there. -/
theorem careful_term (config : Config) (x : Operand) : (x.term config).Careful x.Raises := by
  induction x using Operand.induction generalizing config with
  | value v => exact .value v
  | default => exact .default
  | raw sql => exact .raw sql
  | template parts args ih =>
    rw [term_template]
    refine .template ?_
    unfold Template.render
    split
    · refine (FailsWith.mapM (List.forall_mem_map.2 fun y hy => ?_)).map _
      exact (careful_of_child hy (ih y hy config)).operand fun _ => .fault
    · exact .error (.fault rfl)
  | query inner history ih =>
    rw [term_query]
    refine .query ((Query.refuses_statement (fun _ => .fault) .mixed
      (fun kind => .untargeted .query) fun call hcall y hy => ?_).map _)
    exact careful_of_child (List.mem_flatMap.2 ⟨call, hcall, hy⟩) (ih call hcall y hy inner)
  | statement s =>
    rw [term_statement]
    exact .statement (s.refuses_toFragment fun _ => .fault)
  | record entries ih =>
    rw [term_record]
    refine .record (List.forall_mem_map.2 fun e he => ?_)
    exact careful_of_child (List.mem_map_of_mem he) (ih e he config)
  | not y ih =>
    rw [term_not]
    exact .predicate (Term.Careful.noneOf (fun _ => .fault) config
      (careful_of_child List.mem_cons_self (ih config)))
  | all ys ih =>
    rw [term_all]
    exact .predicate (Term.Careful.allOf (fun _ => .fault) config
      (List.forall_mem_map.2 fun y hy => careful_of_child hy (ih y hy config)))
  | any ys ih =>
    rw [term_any]
    exact .predicate (Term.Careful.anyOf (fun _ => .fault) config
      (List.forall_mem_map.2 fun y hy => careful_of_child hy (ih y hy config)))

end Operand

namespace Query

/-- A query that does not compile has a reason of its own, or something inside of it has one. -/
theorem raises_compile (q : Query Operand) : FailsWith (Operand.query q).Raises q.compile := by
  refine (refuses_statement (fun _ => .fault) .mixed (fun kind => .untargeted .query)
    fun call hcall x hx => ?_).map _
  exact Operand.careful_of_child (List.mem_flatMap.2 ⟨call, hcall, hx⟩) (x.careful_term q.config)

/-- A query that does not compile fails with a compile error. -/
theorem refuses_compile (q : Query Operand) : FailsWith (fun e => e.isCompileError) q.compile := by
  refine q.raises_compile.mono fun e raises => ?_
  cases raises with
  | fault own => exact Error.isCompileError_of_isFault own
  | mixed | untargeted => rfl

end Query

end SqlBuilder
