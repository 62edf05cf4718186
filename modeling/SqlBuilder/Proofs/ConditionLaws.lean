import SqlBuilder.Proofs.Composition
import SqlBuilder.Proofs.Exclusion
import SqlBuilder.Query

/-!
# Laws of condition calls

Conditions may be given in one call or in several, and in a call as a predicate or as its
operands; the statement is the same. What gives no condition may be left out wherever conditions
are combined. The laws hold for `filter` and for `having` alike, behind any calls and in front of
any others (`Query.ConditionLaws`).
-/

namespace SqlBuilder

variable {α β : Type}

/-- Clauses whose calls give conditions. -/
def Clause.isCondition : Clause → Bool
  | .filter | .having => true
  | _ => false

/-- A call of conditions demands no kind of statement. -/
theorem Clause.impliedKind?_of_isCondition {clause : Clause} (condition : clause.isCondition) :
    clause.impliedKind? = none := by
  cases clause with
  | filter | having => rfl
  | _ => cases condition

theorem Clause.ne_of_isCondition {clause : Clause} (condition : clause.isCondition)
    {other : Clause} (unlike : other.isCondition = false) : other ≠ clause := by
  rintro rfl
  rw [condition] at unlike
  cases unlike

/-- A section with conditions writes the conjunction of the calls behind its keyword. -/
theorem Section.text_of_isCondition {s : Section} {clause : Clause} (condition : clause.isCondition)
    (read : s.reads clause) :
    ∃ keyword, ∀ config log, s.text config log = log.keyedCondition config clause keyword := by
  cases clause with
  | filter =>
    cases s with
    | filter => exact ⟨"where", fun _ _ => rfl⟩
    | _ => cases read
  | having =>
    cases s with
    | having => exact ⟨"having", fun _ _ => rfl⟩
    | _ => cases read
  | _ => cases condition

namespace Log

/-! ### Logs with other conditions -/

section

variable {clause : Clause} {log log' : Log α}
  (others : log.only (· ≠ clause) = log'.only (· ≠ clause))

include others

theorem operandsOf_of_others {other : Clause} (h : other ≠ clause) :
    log.operandsOf other = log'.operandsOf other := by
  have kept : (decide (other ≠ clause)) = true := decide_eq_true h
  rw [← log.operandsOf_only (p := (· ≠ clause)) kept, others, log'.operandsOf_only kept]

theorem uses_of_others {other : Clause} (h : other ≠ clause) :
    log.uses (· = other) = log'.uses (· = other) := by
  have kept : (decide (other ≠ clause)) = true := decide_eq_true h
  rw [← log.uses_only (p := (· ≠ clause)) kept, others, log'.uses_only kept]

variable (condition : clause.isCondition)

include condition

/-- Calls of conditions have no say in the kind of the statement. -/
theorem filterMap_impliedKind?_of_others :
    (log.filterMap fun call => call.clause.impliedKind?) =
      log'.filterMap fun call => call.clause.impliedKind? := by
  have kept (log : Log α) : ((log.only (· ≠ clause)).filterMap fun call =>
      call.clause.impliedKind?) = log.filterMap fun call => call.clause.impliedKind? := by
    rw [only, List.filterMap_filter]
    refine List.filterMap_congr fun call _ => ?_
    by_cases h : call.clause = clause
    · simp [h, Clause.impliedKind?_of_isCondition condition]
    · simp [h]
  rw [← kept log, others, kept log']

/-- Logs that both have calls of the conditions, or both none, make up the same kind. -/
theorem statementKind_of_others (used : log.uses (· = clause) = log'.uses (· = clause)) :
    log.statementKind = log'.statementKind := by
  have clauseWise (other : Clause) : log.uses (· = other) = log'.uses (· = other) := by
    by_cases h : other = clause
    · rw [h, used]
    · exact uses_of_others others h
  have uses (p : Clause → Bool) : log.uses p = log'.uses p := by
    rw [Bool.eq_iff_iff, uses_iff, uses_iff]
    simp only [clauseWise]
  have columns : Clause.columns ≠ clause := Clause.ne_of_isCondition condition rfl
  have rows : Clause.rows ≠ clause := Clause.ne_of_isCondition condition rfl
  simp only [statementKind, impliedKind, checkClauses, checkColumns, uses,
    filterMap_impliedKind?_of_others others condition, operandsOf_of_others others columns,
    operandsOf_of_others others rows]

/-- Calls of conditions may join a statement that has a clause for them. -/
theorem statementKind_of_admits {kind : StatementKind} (h : log.statementKind = .ok kind)
    (admits : kind.admits clause) : log'.statementKind = .ok kind := by
  obtain ⟨suits, linesUp⟩ := (log.statementKind_eq_ok_iff kind).1 h
  have demands (other : StatementKind) : log'.Demands other ↔ log.Demands other := by
    rw [← mem_filterMap_impliedKind?, ← mem_filterMap_impliedKind?,
      filterMap_impliedKind?_of_others others condition]
  refine (log'.statementKind_eq_ok_iff kind).2 ⟨⟨?_, fun call hcall => ?_⟩, fun insert => ?_⟩
  · simpa only [demands] using suits.demanded
  · by_cases same : call.clause = clause
    · rwa [same]
    · have kept : call ∈ log'.only (· ≠ clause) := by simp [only, hcall, same]
      rw [← others] at kept
      exact suits.admitted call (List.mem_of_mem_filter kept)
  · have columns : Clause.columns ≠ clause := Clause.ne_of_isCondition condition rfl
    have rows : Clause.rows ≠ clause := Clause.ne_of_isCondition condition rfl
    have straight := linesUp insert
    rwa [LinesUp, operandsOf_of_others others columns, operandsOf_of_others others rows]
      at straight

end

/-- Logs make up the same statement if they differ in conditions that add the same conjuncts. -/
theorem statement_of_others (config : Config) {clause : Clause} (condition : clause.isCondition)
    {log log' : Log Term} (others : log.only (· ≠ clause) = log'.only (· ≠ clause))
    (kind : log.statementKind = log'.statementKind)
    (same : Condition.conjunctsOf config (log.operandsOf clause) =
      Condition.conjunctsOf config (log'.operandsOf clause)) :
    statement config log = statement config log' := by
  have target : log.target? = log'.target? := by
    have table : Clause.table ≠ clause := Clause.ne_of_isCondition condition rfl
    rw [target?, target?, operandsOf_of_others others table]
  have text (s : Section) : s.text config log = s.text config log' := by
    cases read : s.reads clause with
    | true =>
      obtain ⟨keyword, text⟩ := Section.text_of_isCondition condition read
      rw [text, text, keyedCondition_eq, keyedCondition_eq, same]
    | false =>
      have kept : ∀ other, s.reads other → decide (other ≠ clause) := by
        intro other reads
        apply decide_eq_true
        rintro rfl
        rw [read] at reads
        cases reads
      rw [← s.text_only config log kept, others, s.text_only config log' kept]
  have texts : Section.text config log = Section.text config log' := funext text
  rw [statement, statement, kind, target, texts]

end Log

/-! ### Queries -/

namespace Log

theorem operandsOf_calls (clause : Clause) (calls : List (List α)) :
    operandsOf (calls.map (Call.mk clause)) clause = calls := by
  simp [operandsOf, List.filter_map, Function.comp_def]

end Log

namespace Query

/-- The query with more calls behind its own. -/
def followedBy (q : Query Operand) (later : Log Operand) : Query Operand :=
  { q with history := later.reverse ++ q.history }

theorem log_followedBy (q : Query Operand) (later : Log Operand) :
    (q.followedBy later).log = q.log ++ later := by
  simp [followedBy, log]

/-- In front of any calls both queries compile to the same statement or fail alike. -/
def Equivalent (q q' : Query Operand) : Prop :=
  ∀ later, (q.followedBy later).compile = (q'.followedBy later).compile

/-- Calls of one clause with the given operands. -/
def calling (q : Query Operand) (clause : Clause) (calls : List (List Operand)) : Query Operand :=
  q.followedBy (calls.map (Call.mk clause))

theorem log_calling (q : Query Operand) (clause : Clause) (calls : List (List Operand)) :
    (q.calling clause calls).log = q.log ++ calls.map (Call.mk clause) :=
  q.log_followedBy _

section

variable {clause : Clause} (condition : clause.isCondition) (q : Query Operand)
  (calls calls' : List (List Operand))

/-- Only the calls of the clause tell the logs apart. -/
theorem only_calling (later : Log Operand) :
    ((q.calling clause calls).followedBy later).log.only (· ≠ clause) =
      ((q.calling clause calls').followedBy later).log.only (· ≠ clause) := by
  have none (calls : List (List Operand)) :
      Log.only (calls.map (Call.mk clause)) (· ≠ clause) = [] := by
    simp [Log.only]
  simp only [log_followedBy, log_calling, Log.only, List.filter_append] at none ⊢
  rw [none, none]

theorem uses_calling (later : Log Operand) :
    ((q.calling clause calls).followedBy later).log.uses (· = clause) =
      (q.log.uses (· = clause) || !calls.isEmpty || later.uses (· = clause)) := by
  have given : Log.uses (calls.map (Call.mk clause)) (· = clause) = !calls.isEmpty := by
    cases calls <;> simp [Log.uses]
  simp only [log_followedBy, log_calling, Log.uses, List.any_append] at given ⊢
  rw [given]

include condition

theorem compile_of_conjuncts (later : Log Operand)
    (kind : ((q.calling clause calls).followedBy later).kind =
      ((q.calling clause calls').followedBy later).kind)
    (same : ∀ config,
      Condition.conjunctsOf config (calls.map (List.map (Operand.term config))) =
        Condition.conjunctsOf config (calls'.map (List.map (Operand.term config)))) :
    ((q.calling clause calls).followedBy later).compile =
      ((q.calling clause calls').followedBy later).compile := by
  have operands (calls : List (List Operand)) :
      Log.operandsOf (((q.calling clause calls).followedBy later).log.map
          (Call.map (Operand.term q.config))) clause =
        (q.log.operandsOf clause).map (List.map (Operand.term q.config)) ++
          calls.map (List.map (Operand.term q.config)) ++
          (Log.operandsOf later clause).map (List.map (Operand.term q.config)) := by
    rw [log_followedBy, log_calling, Log.operandsOf_map, Log.operandsOf_append,
      Log.operandsOf_append, Log.operandsOf_calls, List.map_append, List.map_append]
  have kinds (log : Log Operand) :
      Log.statementKind (log.map (Call.map (Operand.term q.config))) = log.statementKind :=
    Log.statementKind_eq (by simp [Call.map])
  have statement : ((q.calling clause calls).followedBy later).statement =
      ((q.calling clause calls').followedBy later).statement := by
    rw [statement_eq_map, statement_eq_map]
    refine Log.statement_of_others q.config condition ?_ ?_ ?_
    · rw [Log.only_map, Log.only_map, q.only_calling calls calls' later]
      rfl
    · exact (kinds _).trans (kind.trans (kinds _).symm)
    · have conjuncts (calls : List (List Operand)) :=
        congrArg (Condition.conjunctsOf q.config) (operands calls)
      refine (conjuncts calls).trans (Eq.trans ?_ (conjuncts calls').symm)
      rw [Condition.conjunctsOf_append, Condition.conjunctsOf_append, Condition.conjunctsOf_append,
        Condition.conjunctsOf_append, same]
  rw [compile, compile, statement]

theorem equivalent_of_conjuncts (used : calls.isEmpty = calls'.isEmpty)
    (same : ∀ config,
      Condition.conjunctsOf config (calls.map (List.map (Operand.term config))) =
        Condition.conjunctsOf config (calls'.map (List.map (Operand.term config)))) :
    (q.calling clause calls).Equivalent (q.calling clause calls') := by
  intro later
  refine compile_of_conjuncts condition q calls calls' later ?_ same
  refine Log.statementKind_of_others (q.only_calling calls calls' later) condition ?_
  rw [uses_calling, uses_calling, used]

end

/-- The laws of calls that give one condition or several alternatives. -/
structure ConditionLaws (clause : Clause) (one : Query Operand → Operand → Query Operand)
    (several : Query Operand → List Operand → Query Operand) : Prop where
  /-- Calls one after the other are a conjunction. -/
  conjunction : ∀ q x y, (one (one q x) y).Equivalent (one q (.predicate (.all [x, y])))
  /-- Alternatives are a disjunction. -/
  disjunction : ∀ q xs, (several q xs).Equivalent (one q (.predicate (.any xs)))
  /-- A mapping may be cut in two. -/
  entries : ∀ q es es', (one q (.record ⟨es ++ es'⟩)).Equivalent
    (one (one q (.record ⟨es⟩)) (.record ⟨es'⟩))
  /-- A JSON object is the mapping of its members. -/
  members : ∀ q ms, (one q (.value (.json (.object ms)))).Equivalent
    (one q (.record (Record.ofMembers ms)))
  /-- A predicate extended by `and` is a conjunction, whatever it was before. -/
  extendedAnd : ∀ q p x, (one q (.predicate (p.and x))).Equivalent
    (one q (.predicate (.all [.predicate p, x])))
  /-- A predicate extended by `or` is a disjunction, whatever it was before. -/
  extendedOr : ∀ q p x, (one q (.predicate (p.or x))).Equivalent
    (one q (.predicate (.any [.predicate p, x])))
  /-- What gives no condition may be left out inside an operand. -/
  inside : ∀ q x y, x.Prunes y → (one q x).Equivalent (one q y)
  /-- What gives no condition may be left out of the alternatives. -/
  among : ∀ q v xs ys, v.Void → (several q (xs ++ v :: ys)).Equivalent (several q (xs ++ ys))
  /-- A call that gives no condition may be left out beside other calls of the clause. -/
  beside : ∀ q v later, v.Void → (q.followedBy later).log.uses (· = clause) →
    ((one q v).followedBy later).compile = (q.followedBy later).compile
  /-- A call that gives no condition may be left out of a statement that has the clause. -/
  alone : ∀ q v later kind, v.Void → (q.followedBy later).kind = .ok kind → kind.admits clause →
    ((one q v).followedBy later).compile = (q.followedBy later).compile

section

variable {clause : Clause} (condition : clause.isCondition)

include condition

/-- Operands that mean the same may be exchanged. -/
theorem equivalent_of_alike (q : Query Operand) {x y : Operand} (alike : x.Alike y) :
    (q.push clause [x]).Equivalent (q.push clause [y]) := by
  refine equivalent_of_conjuncts condition q [[x]] [[y]] rfl ?_
  intro config
  simp only [List.map_cons, List.map_nil, Condition.conjunctsOf_singleton, alike config]

/-- A call that gives no condition may be left out if that does not change the kind. -/
theorem compile_void (q : Query Operand) {v : Operand} (void : v.Void) (later : Log Operand)
    (kind : ((q.push clause [v]).followedBy later).kind = (q.followedBy later).kind) :
    ((q.push clause [v]).followedBy later).compile = (q.followedBy later).compile := by
  refine compile_of_conjuncts condition q [[v]] [] later kind ?_
  intro config
  simp only [List.map_cons, List.map_nil, Condition.conjunctsOf_singleton,
    (Operand.void_iff config v).1 void]
  rfl

theorem conditionLaws_push :
    ConditionLaws clause (fun q x => q.push clause [x]) (fun q xs => q.push clause xs) where
  conjunction q x y := by
    refine equivalent_of_conjuncts condition q [[x], [y]] [[.predicate (.all [x, y])]] rfl ?_
    intro config
    simp only [List.map_cons, List.map_nil, term_all]
    exact Condition.conjunctsOf_each config [x.term config, y.term config]
  disjunction q xs := by
    refine equivalent_of_conjuncts condition q [xs] [[.predicate (.any xs)]] rfl ?_
    intro config
    simp only [List.map_cons, List.map_nil, term_any]
    exact Condition.conjunctsOf_any config (xs.map (Operand.term config))
  entries q es es' := by
    refine equivalent_of_conjuncts condition q [[.record ⟨es ++ es'⟩]]
      [[.record ⟨es⟩], [.record ⟨es'⟩]] rfl ?_
    intro config
    simp only [List.map_cons, List.map_nil, term_record, List.map_append]
    exact Condition.conjunctsOf_record config _ _
  members q ms := equivalent_of_alike condition q (Operand.alike_object ms)
  extendedAnd q p x := equivalent_of_alike condition q (Operand.alike_and p x)
  extendedOr q p x := equivalent_of_alike condition q (Operand.alike_or p x)
  inside q x y prunes := equivalent_of_alike condition q prunes.alike
  among q v xs ys void := by
    refine equivalent_of_conjuncts condition q [xs ++ v :: ys] [xs ++ ys] rfl ?_
    intro config
    have anyOf : Condition.anyOf config ((xs ++ v :: ys).map (Operand.term config)) =
        Condition.anyOf config ((xs ++ ys).map (Operand.term config)) := by
      rw [List.map_append, List.map_cons, Condition.anyOf,
        Condition.ofTerms_void config ((Operand.void_iff config v).1 void), ← List.map_append,
        Condition.anyOf]
    simp only [Condition.conjunctsOf, List.map_cons, List.map_nil, List.mapM_cons, anyOf]
  beside q v later void used := by
    refine compile_void condition q void later ?_
    refine Log.statementKind_of_others (q.only_calling [[v]] [] later) condition ?_
    refine (q.uses_calling [[v]] later).trans ?_
    rw [used]
    simp
  alone q v later kind void outcome admits := by
    refine compile_void condition q void later (Eq.trans ?_ outcome.symm)
    exact Log.statementKind_of_admits (q.only_calling [] [[v]] later) condition outcome admits

end

/-- The laws of conditions hold for `filter` and for `having`. What gives no condition is known
by its form: it is empty, or it combines nothing but what gives no condition. -/
theorem condition_laws :
    (∀ (x : Operand) (config : Config),
      Condition.ofTerm config (x.term config) = .ok none ↔ x.Void) ∧
    ConditionLaws .filter Query.filter Query.filterAny ∧
    ConditionLaws .having Query.having Query.havingAny :=
  ⟨fun x config => (Operand.void_iff config x).symm, conditionLaws_push rfl,
    conditionLaws_push rfl⟩

end Query

end SqlBuilder
