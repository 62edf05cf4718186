import Mathlib.Tactic.SplitIfs
import SqlBuilder.Proofs.Operand

/-!
# The order of calls

Calls of different clauses may be interleaved in any way. Two logs that agree clause by clause
make up the same kind of statement, and every section of the statement is made from calls that
both have in the same order. Only the report of a conflict names the kinds in the order in which
the calls demand them.

Tables and joins count as one clause here, and so do declared columns and rows. Of the limits and
the offsets only the last one counts, and a call that makes a statement a `delete` holds nothing
but that.
-/

namespace SqlBuilder

variable {α β : Type}

/-- Whether every call of the clause counts. -/
def Clause.accumulates : Clause → Bool
  | .limit | .offset | .deletion => false
  | _ => true

namespace Log

/-- The calls whose clause has the property. -/
def only (log : Log α) (p : Clause → Bool) : Log α := log.filter fun call => p call.clause

/-- The same calls, clause by clause. -/
structure Rearranged (log log' : Log α) : Prop where
  ctes : log.only (· = .cte) = log'.only (· = .cte)
  sources : log.only Clause.isSource = log'.only Clause.isSource
  filter : log.only (· = .filter) = log'.only (· = .filter)
  output : log.only (· = .output) = log'.only (· = .output)
  grouping : log.only (· = .grouping) = log'.only (· = .grouping)
  having : log.only (· = .having) = log'.only (· = .having)
  ordering : log.only (· = .ordering) = log'.only (· = .ordering)
  assignment : log.only (· = .assignment) = log'.only (· = .assignment)
  insertion : log.only (fun clause => clause = .columns || clause = .rows) =
    log'.only (fun clause => clause = .columns || clause = .rows)
  manual : log.only (· = .manual) = log'.only (· = .manual)
  limit : (log.only (· = .limit)).getLast? = (log'.only (· = .limit)).getLast?
  offset : (log.only (· = .offset)).getLast? = (log'.only (· = .offset)).getLast?
  deletion : log.uses (· = .deletion) = log'.uses (· = .deletion)

theorem only_map (f : α → β) (log : Log α) (p : Clause → Bool) :
    only (log.map (Call.map f)) p = (log.only p).map (Call.map f) := by
  simp only [only, List.filter_map]
  rfl

theorem uses_map (f : α → β) (log : Log α) (p : Clause → Bool) :
    uses (log.map (Call.map f)) p = log.uses p := by
  simp only [uses, List.any_map]
  rfl

/-- Calls of a narrower property are found among those of a wider one. -/
theorem only_only (log : Log α) {p q : Clause → Bool} (wider : ∀ clause, q clause → p clause) :
    (log.only p).only q = log.only q := by
  rw [only, only, List.filter_filter]
  refine List.filter_congr fun call _ => ?_
  cases narrow : q call.clause with
  | false => rfl
  | true => simp [wider _ narrow]

theorem uses_eq_isEmpty (log : Log α) (p : Clause → Bool) :
    log.uses p = !(log.only p).isEmpty := by
  rw [Bool.eq_iff_iff]
  simp [uses, only, List.filter_eq_nil_iff]

/-- A log uses some clause with the property when it uses one of them. -/
theorem uses_iff (log : Log α) (p : Clause → Bool) :
    log.uses p ↔ ∃ clause, p clause ∧ log.uses (· = clause) := by
  simp only [uses, List.any_eq_true, decide_eq_true_eq]
  constructor
  · rintro ⟨call, hcall, has⟩
    exact ⟨call.clause, has, call, hcall, rfl⟩
  · rintro ⟨clause, has, call, hcall, rfl⟩
    exact ⟨call, hcall, has⟩

/-! ### The kind that the calls demand -/

/-- Some call demands a statement of the kind. -/
def Demands (log : Log α) (kind : StatementKind) : Prop :=
  log.uses fun clause => clause.impliedKind? = some kind

theorem mem_filterMap_impliedKind? (log : Log α) (kind : StatementKind) :
    (kind ∈ log.filterMap fun call => call.clause.impliedKind?) ↔ log.Demands kind := by
  simp [Demands, uses]

/-- The kind is the only one that is demanded, or nothing is and the statement is a `select`. -/
theorem impliedKind_eq_ok_iff (log : Log α) (kind : StatementKind) :
    log.impliedKind = .ok kind ↔
      (∀ other, log.Demands other → other = kind) ∧ (log.Demands kind ∨ kind = .select) := by
  simp only [← mem_filterMap_impliedKind?, impliedKind]
  cases kinds : log.filterMap fun call => call.clause.impliedKind? with
  | nil => simp [eq_comm]
  | cons first rest =>
    simp only
    cases found : rest.find? fun kind => kind ≠ first with
    | none =>
      have same : ∀ other ∈ rest, other = first := by simpa using found
      simp only [Except.ok.injEq]
      constructor
      · rintro rfl
        exact ⟨by simpa using same, .inl List.mem_cons_self⟩
      · rintro ⟨all, -⟩
        exact all first List.mem_cons_self
    | some second =>
      have differs : second ≠ first := by simpa using List.find?_some found
      have demanded := List.mem_of_find?_eq_some found
      simp only [reduceCtorEq, false_iff, not_and]
      intro all _
      apply differs
      rw [all second (List.mem_cons_of_mem first demanded), all first List.mem_cons_self]

theorem eq_conflictingKinds_of_impliedKind {log : Log α} {e : Error}
    (h : log.impliedKind = .error e) : ∃ first second, e = .conflictingKinds first second := by
  unfold impliedKind at h
  split at h
  · cases h
  · split at h
    · cases h
    · cases h
      exact ⟨_, _, rfl⟩

end Log

/-! ### What the sections read -/

/-- Only tables and joins are sources. -/
theorem Source.ofLog_only (log : Log Term) : ofLog (log.only Clause.isSource) = ofLog log := by
  have none : ∀ call : Call Term, call.clause.isSource = false → ofCall call = [] := by
    rintro ⟨clause, operands⟩ h
    cases clause with
    | table | join => cases h
    | _ => rfl
  induction log with
  | nil => rfl
  | cons call log ih =>
    simp only [ofLog, Log.only, List.filter_cons, List.flatMap_cons] at ih ⊢
    split_ifs with h
    · rw [List.flatMap_cons, ih]
    · rw [ih, none call (by simpa using h), List.nil_append]

/-- Positional rows are read from the calls that declare columns or give rows. -/
theorem Insertion.ofPositional_only (log : Log Term) :
    ofPositional (log.only fun clause => clause = .columns || clause = .rows) =
      ofPositional log := by
  have skip : ∀ (call : Call Term) (p : Positional),
      (call.clause = .columns || call.clause = .rows) = false → p.step call = .ok p := by
    rintro ⟨clause, operands⟩ p h
    cases clause with
    | columns | rows => cases h
    | _ => rfl
  have fold (p : Positional) :
      (log.only fun clause => clause = .columns || clause = .rows).foldlM Positional.step p =
        log.foldlM Positional.step p := by
    induction log generalizing p with
    | nil => rfl
    | cons call log ih =>
      simp only [Log.only, List.filter_cons, List.foldlM_cons] at ih ⊢
      split_ifs with h
      · simp only [List.foldlM_cons, ih]
      · rw [ih, skip call p (by simpa using h)]
        rfl
  rw [ofPositional, fold, ofPositional]

namespace Log.Rearranged

section

variable {log log' : Log α} (h : log.Rearranged log')

include h

theorem map (f : α → β) : Rearranged (log.map (Call.map f)) (log'.map (Call.map f)) where
  ctes := by simp only [only_map, h.ctes]
  sources := by simp only [only_map, h.sources]
  filter := by simp only [only_map, h.filter]
  output := by simp only [only_map, h.output]
  grouping := by simp only [only_map, h.grouping]
  having := by simp only [only_map, h.having]
  ordering := by simp only [only_map, h.ordering]
  assignment := by simp only [only_map, h.assignment]
  insertion := by simp only [only_map, h.insertion]
  manual := by simp only [only_map, h.manual]
  limit := by simp only [only_map, List.getLast?_map, h.limit]
  offset := by simp only [only_map, List.getLast?_map, h.offset]
  deletion := by simp only [uses_map, h.deletion]

/-- Where every call counts, both logs have the same calls of the clause. -/
theorem only_eq (clause : Clause) (all : clause.accumulates) :
    log.only (· = clause) = log'.only (· = clause) := by
  have source (wider : clause.isSource) : log.only (· = clause) = log'.only (· = clause) := by
    have narrow : ∀ c : Clause, decide (c = clause) → c.isSource := by
      intro c hc
      rwa [of_decide_eq_true hc]
    rw [← only_only log narrow, ← only_only log' narrow, h.sources]
  have row (wider : clause = .columns ∨ clause = .rows) :
      log.only (· = clause) = log'.only (· = clause) := by
    have narrow : ∀ c : Clause, decide (c = clause) → (c = .columns || c = .rows) := by
      intro c hc
      rw [of_decide_eq_true hc]
      simpa using wider
    rw [← only_only log narrow, ← only_only log' narrow, h.insertion]
  cases clause with
  | cte => exact h.ctes
  | table | join => exact source rfl
  | filter => exact h.filter
  | output => exact h.output
  | grouping => exact h.grouping
  | having => exact h.having
  | ordering => exact h.ordering
  | limit | offset | deletion => cases all
  | assignment => exact h.assignment
  | columns => exact row (.inl rfl)
  | rows => exact row (.inr rfl)
  | manual => exact h.manual

theorem operandsOf_eq (clause : Clause) (all : clause.accumulates) :
    log.operandsOf clause = log'.operandsOf clause :=
  congrArg (List.map Call.operands) (h.only_eq clause all)

theorem allOperands_eq (clause : Clause) (all : clause.accumulates) :
    log.allOperands clause = log'.allOperands clause :=
  congrArg List.flatten (h.operandsOf_eq clause all)

/-- Both logs use the same clauses. -/
theorem uses_eq (p : Clause → Bool) : log.uses p = log'.uses p := by
  have last {calls calls' : Log α} (same : calls.getLast? = calls'.getLast?) :
      calls.isEmpty = calls'.isEmpty := by
    rw [Bool.eq_iff_iff, List.isEmpty_iff, List.isEmpty_iff, ← List.getLast?_eq_none_iff, same,
      List.getLast?_eq_none_iff]
  have clauseWise (clause : Clause) : log.uses (· = clause) = log'.uses (· = clause) := by
    cases all : clause.accumulates with
    | true => rw [uses_eq_isEmpty, uses_eq_isEmpty, h.only_eq clause all]
    | false =>
      cases clause with
      | limit => rw [uses_eq_isEmpty, uses_eq_isEmpty, last h.limit]
      | offset => rw [uses_eq_isEmpty, uses_eq_isEmpty, last h.offset]
      | deletion => exact h.deletion
      | _ => cases all
  rw [Bool.eq_iff_iff, uses_iff, uses_iff]
  simp only [clauseWise]

/-! ### The statement -/

/-- Both logs demand statements of several kinds, or both make up the same kind of statement or
fail alike. -/
theorem statementKind_eq :
    ((∃ first second, log.statementKind = .error (.conflictingKinds first second)) ∧
      ∃ first second, log'.statementKind = .error (.conflictingKinds first second)) ∨
    log.statementKind = log'.statementKind := by
  have implied (kind : StatementKind) :
      log.impliedKind = .ok kind ↔ log'.impliedKind = .ok kind := by
    simp only [impliedKind_eq_ok_iff, Demands, h.uses_eq]
  have clauses (kind : StatementKind) : log.checkClauses kind = log'.checkClauses kind := by
    simp only [checkClauses, h.uses_eq]
  have columns : log.checkColumns = log'.checkColumns := by
    simp only [checkColumns, h.operandsOf_eq .columns rfl,
      h.operandsOf_eq .rows rfl]
  cases hlog : log.impliedKind with
  | ok kind =>
    right
    simp only [statementKind, hlog, (implied kind).1 hlog, clauses, columns]
  | error e =>
    left
    cases hlog' : log'.impliedKind with
    | ok kind =>
      rw [(implied kind).2 hlog'] at hlog
      cases hlog
    | error e' =>
      obtain ⟨first, second, rfl⟩ := eq_conflictingKinds_of_impliedKind hlog
      obtain ⟨first', second', rfl⟩ := eq_conflictingKinds_of_impliedKind hlog'
      refine ⟨⟨first, second, ?_⟩, first', second', ?_⟩
      · rw [statementKind, hlog]
        rfl
      · rw [statementKind, hlog']
        rfl

end

variable {log log' : Log Term} (h : log.Rearranged log') (config : Config)

include h

theorem ofLog_eq : Source.ofLog log = Source.ofLog log' := by
  rw [← Source.ofLog_only log, ← Source.ofLog_only log', h.sources]

theorem keyedList_eq (clause : Clause) (all : clause.accumulates) (keyword : String) :
    log.keyedList clause keyword = log'.keyedList clause keyword := by
  rw [keyedList, keyedList, h.allOperands_eq clause all]

theorem keyedCondition_eq (clause : Clause) (all : clause.accumulates) (keyword : String) :
    log.keyedCondition config clause keyword = log'.keyedCondition config clause keyword := by
  rw [keyedCondition, keyedCondition, h.operandsOf_eq clause all]

omit h in
/-- Of a clause that counts only once, the last call is read. -/
theorem keyedLast_eq {clause : Clause}
    (last : (log.only (· = clause)).getLast? = (log'.only (· = clause)).getLast?)
    (keyword : String) : log.keyedLast clause keyword = log'.keyedLast clause keyword := by
  have operands (log : Log Term) : (log.operandsOf clause).getLast? =
      (log.only (· = clause)).getLast?.map Call.operands := List.getLast?_map
  rw [keyedLast, keyedLast, operands, operands, last]

theorem insertionList_eq : Insertion.list config log = Insertion.list config log' := by
  rw [Insertion.list, Insertion.list, ← Insertion.ofPositional_only log,
    ← Insertion.ofPositional_only log', h.insertion, h.uses_eq,
    h.operandsOf_eq .rows rfl,
    h.allOperands_eq .rows rfl]

/-- Every section has the same text, or fails alike. -/
theorem text_eq (section' : Section) : section'.text config log = section'.text config log' := by
  cases section' with
  | ctes =>
    simp only [Section.text, Log.ctes, h.operandsOf_eq .cte rfl]
  | selection =>
    simp only [Section.text, h.allOperands_eq .output rfl]
  | sources => simp only [Section.text, h.ofLog_eq]
  | filter => exact h.keyedCondition_eq config _ rfl _
  | grouping => exact h.keyedList_eq _ rfl _
  | having => exact h.keyedCondition_eq config _ rfl _
  | ordering => exact h.keyedList_eq _ rfl _
  | limit => exact keyedLast_eq h.limit _
  | offset => exact keyedLast_eq h.offset _
  | insertion => simp only [Section.text, Log.insertion, h.ofLog_eq, h.insertionList_eq]
  | assignment =>
    simp only [Section.text, Log.assignment, Assignment.list, h.ofLog_eq,
      h.allOperands_eq .assignment rfl]
  | otherSources => simp only [Section.text, otherSources, h.ofLog_eq]
  | deletion => simp only [Section.text, Log.deletion, h.ofLog_eq]
  | returning => exact h.keyedList_eq _ rfl _
  | manual =>
    simp only [Section.text, h.allOperands_eq .manual rfl]

/-- Either both logs demand statements of several kinds, or both make up the same statement or
fail alike. -/
theorem statement_eq :
    ((∃ first second, Log.statement config log = .error (.conflictingKinds first second)) ∧
      ∃ first second, Log.statement config log' = .error (.conflictingKinds first second)) ∨
    Log.statement config log = Log.statement config log' := by
  rcases h.statementKind_eq with ⟨⟨first, second, hlog⟩, first', second', hlog'⟩ | same
  · left
    refine ⟨⟨first, second, ?_⟩, first', second', ?_⟩
    · rw [Log.statement, hlog]
      rfl
    · rw [Log.statement, hlog']
      rfl
  · right
    have target : log.target? = log'.target? := by
      rw [target?, target?, h.operandsOf_eq .table rfl]
    have sections : Section.text config log = Section.text config log' := funext (h.text_eq config)
    simp only [Log.statement, same, target, sections]

end Log.Rearranged

namespace Query

/-- Queries that make the same calls clause by clause, under the same configuration, compile to
the same statement or fail with the same error, unless both mix kinds of statement. -/
theorem compile_rearranged {q q' : Query Operand} (config : q.config = q'.config)
    (h : q.log.Rearranged q'.log) :
    ((∃ first second, q.compile = .error (.conflictingKinds first second)) ∧
      ∃ first second, q'.compile = .error (.conflictingKinds first second)) ∨
    q.compile = q'.compile := by
  have terms := (h.map (Operand.term q.config)).statement_eq q.config
  have statement' : q'.statement =
      Log.statement q.config (q'.log.map (Call.map (Operand.term q.config))) := by
    rw [statement_eq_map, config]
  rw [← statement_eq_map, ← statement'] at terms
  rcases terms with ⟨⟨first, second, hq⟩, first', second', hq'⟩ | same
  · left
    refine ⟨⟨first, second, ?_⟩, first', second', ?_⟩
    · rw [compile, hq]
      rfl
    · rw [compile, hq']
      rfl
  · right
    rw [compile, compile, same]

/-- Open orders above a total. -/
def openOrders (total : Value) : Query Operand :=
  ((Query.new Config.default).select "id").table "orders" |>.filter
      (.record ⟨[("isOpen", .value (.bool true))]⟩)
    |>.filter (.template ⟨["total > ", ""], [.value total]⟩) |>.limit (.value (.int 10))

/-- The same with the calls in another order, and a limit that a later one replaces. -/
def openOrdersLater (total : Value) : Query Operand :=
  (((Query.new Config.default).limit (.value (.int 99))).filter
      (.record ⟨[("isOpen", .value (.bool true))]⟩)).table "orders"
    |>.limit (.value (.int 10)) |>.filter (.template ⟨["total > ", ""], [.value total]⟩)
    |>.select "id"

theorem compile_rearranged_openOrders :
    let q := openOrders (.int 100)
    let q' := openOrdersLater (.int 100)
    q.config = q'.config ∧ q.log.Rearranged q'.log ∧ q.compile = q'.compile := by
  intro q q'
  have rearranged : q.log.Rearranged q'.log :=
    ⟨rfl, rfl, rfl, rfl, rfl, rfl, rfl, rfl, rfl, rfl, rfl, rfl, rfl⟩
  have config : q.config = q'.config := rfl
  refine ⟨config, rearranged, (compile_rearranged config rearranged).resolve_left ?_⟩
  rintro ⟨⟨first, second, hq⟩, -⟩
  have ok : q.compile.toOption.isSome := by decide +kernel
  rw [hq] at ok
  cases ok

end Query

end SqlBuilder
