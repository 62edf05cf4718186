import SqlBuilder.Proofs.Rearrangement

/-!
# Every call is read

A log makes up a statement only if every one of its calls is of a clause that some section of the
statement is made from, so no call is passed over in silence (`Log.statementKind_spec`).

What a section is made from is a fact about its text. `Section.text_only` says that the text does
not change when calls of other clauses are left out, and `Section.DependsOn` that it does change
with the calls of a clause. The one call without a text of its own is the one that makes a
statement a `delete`.
-/

namespace SqlBuilder

variable {α : Type}

/-! ### What a section is made from -/

namespace Log

/-- Leaving out calls of other clauses keeps the operands of a clause. -/
theorem operandsOf_only (log : Log α) {p : Clause → Bool} {clause : Clause} (kept : p clause) :
    (log.only p).operandsOf clause = log.operandsOf clause := by
  have narrow : ∀ c : Clause, decide (c = clause) → p c := by
    intro c hc
    rwa [of_decide_eq_true hc]
  exact congrArg (List.map Call.operands) (log.only_only narrow)

theorem allOperands_only (log : Log α) {p : Clause → Bool} {clause : Clause} (kept : p clause) :
    (log.only p).allOperands clause = log.allOperands clause :=
  congrArg List.flatten (log.operandsOf_only kept)

theorem uses_only (log : Log α) {p : Clause → Bool} {clause : Clause} (kept : p clause) :
    (log.only p).uses (· = clause) = log.uses (· = clause) := by
  have narrow : ∀ c : Clause, decide (c = clause) → p c := by
    intro c hc
    rwa [of_decide_eq_true hc]
  rw [uses_eq_isEmpty, uses_eq_isEmpty, log.only_only narrow]

end Log

theorem Source.ofLog_of_kept (log : Log Term) {p : Clause → Bool}
    (kept : ∀ clause, clause.isSource → p clause) : ofLog (log.only p) = ofLog log := by
  rw [← ofLog_only, log.only_only kept, ofLog_only]

/-- Rows are made from the calls that declare columns and those that give rows. -/
theorem Insertion.list_only (config : Config) (log : Log Term) {p : Clause → Bool}
    (columns : p .columns) (rows : p .rows) : list config (log.only p) = list config log := by
  have kept : ∀ clause : Clause, (clause = .columns || clause = .rows) → p clause := by
    intro clause h
    simp only [Bool.or_eq_true, decide_eq_true_eq] at h
    rcases h with rfl | rfl
    · exact columns
    · exact rows
  rw [list, list, ← ofPositional_only (log.only p), log.only_only kept, ofPositional_only,
    log.uses_only columns, log.operandsOf_only rows, log.allOperands_only rows]

namespace Section

variable (config : Config)

/-- A section is made from the calls that it reads; all others may be left out. -/
theorem text_only (log : Log Term) (s : Section) {p : Clause → Bool}
    (kept : ∀ clause, s.reads clause → p clause) :
    s.text config (log.only p) = s.text config log := by
  cases s with
  | ctes => simp only [text, Log.ctes, log.operandsOf_only (kept .cte rfl)]
  | selection => simp only [text, log.allOperands_only (kept .output rfl)]
  | sources => simp only [text, Source.ofLog_of_kept log kept]
  | filter => simp only [text, Log.keyedCondition, log.operandsOf_only (kept .filter rfl)]
  | grouping => simp only [text, Log.keyedList, log.allOperands_only (kept .grouping rfl)]
  | having => simp only [text, Log.keyedCondition, log.operandsOf_only (kept .having rfl)]
  | ordering => simp only [text, Log.keyedList, log.allOperands_only (kept .ordering rfl)]
  | limit => simp only [text, Log.keyedLast, log.operandsOf_only (kept .limit rfl)]
  | offset => simp only [text, Log.keyedLast, log.operandsOf_only (kept .offset rfl)]
  | insertion =>
    have sources : ∀ clause : Clause, clause.isSource → p clause :=
      fun clause h => kept clause (by simp [reads, h])
    simp only [text, Log.insertion, Source.ofLog_of_kept log sources,
      Insertion.list_only config log (kept .columns rfl) (kept .rows rfl)]
  | assignment =>
    have sources : ∀ clause : Clause, clause.isSource → p clause :=
      fun clause h => kept clause (by simp [reads, h])
    simp only [text, Log.assignment, Assignment.list, Source.ofLog_of_kept log sources,
      log.allOperands_only (kept .assignment rfl)]
  | otherSources => simp only [text, Log.otherSources, Source.ofLog_of_kept log kept]
  | deletion =>
    have sources : ∀ clause : Clause, clause.isSource → p clause :=
      fun clause h => kept clause (by simp [reads, h])
    simp only [text, Log.deletion, Source.ofLog_of_kept log sources]
  | returning => simp only [text, Log.keyedList, log.allOperands_only (kept .output rfl)]
  | manual => simp only [text, log.allOperands_only (kept .manual rfl)]

/-- The calls of a clause make a difference to a section: its text changes with them while all
other calls stay as they are. -/
def DependsOn (s : Section) (clause : Clause) : Prop :=
  ∃ config log log', log.only (· ≠ clause) = log'.only (· ≠ clause) ∧
    s.text config log ≠ s.text config log'

/-- A section reads every clause that makes a difference to it. -/
theorem reads_of_dependsOn {s : Section} {clause : Clause} (h : s.DependsOn clause) :
    s.reads clause := by
  obtain ⟨config, log, log', others, differ⟩ := h
  by_contra unread
  have kept : ∀ c : Clause, s.reads c → decide (c ≠ clause) := by
    intro c hc
    apply decide_eq_true
    rintro rfl
    exact unread hc
  apply differ
  rw [← s.text_only config log kept, others, s.text_only config log' kept]

/-- One call of every clause that has operands, joins aside. -/
def specimen : Log Term :=
  [⟨.cte, [.raw "old", .raw "select 1"]⟩, ⟨.table, [.raw "items"]⟩, ⟨.filter, [.raw "sold"]⟩,
   ⟨.output, [.raw "name"]⟩, ⟨.grouping, [.raw "kind"]⟩, ⟨.having, [.raw "count(*) > 1"]⟩,
   ⟨.ordering, [.raw "price"]⟩, ⟨.limit, [.raw "10"]⟩, ⟨.offset, [.raw "20"]⟩,
   ⟨.assignment, [.raw "price = 0"]⟩, ⟨.columns, [.raw "name"]⟩, ⟨.rows, [.raw "'tea'"]⟩,
   ⟨.manual, [.raw "vacuum"]⟩]

/-- The SQL of a text, if there is one. -/
def shown (text : Except Error Fragment) : Option String := text.toOption.map Fragment.toSql

theorem dependsOn_of_shown {s : Section} {clause : Clause} (log log' : Log Term)
    (others : log.only (· ≠ clause) = log'.only (· ≠ clause))
    (differ : shown (s.text Config.identity log) ≠ shown (s.text Config.identity log')) :
    s.DependsOn clause :=
  ⟨Config.identity, log, log', others, fun same => differ (congrArg shown same)⟩

/-- Every clause that a section reads makes a difference to it, but for the marker of a `delete`:
leaving the calls out changes the text, and a join in front of all tables is refused. -/
theorem dependsOn_of_reads {s : Section} {clause : Clause} (h : s.reads clause) :
    s.DependsOn clause ∨ s = .deletion ∧ clause = .deletion := by
  have leftOut (differ : shown (s.text Config.identity (specimen.only (· ≠ clause))) ≠
      shown (s.text Config.identity specimen)) : s.DependsOn clause :=
    dependsOn_of_shown _ _ (specimen.only_only fun _ other => other) differ
  cases clause with
  | deletion =>
    cases s with
    | deletion => exact .inr ⟨rfl, rfl⟩
    | _ => cases h
  | join kind =>
    left
    refine dependsOn_of_shown (⟨.join kind, []⟩ :: specimen) specimen ?_ ?_
    · simp [Log.only]
    · cases s with
      | sources | insertion | assignment | otherSources | deletion =>
        cases kind <;> decide +kernel
      | _ => cases h
  | _ =>
    left
    apply leftOut
    revert h
    cases s <;> decide +kernel

/-- The clauses that a section reads are those that make a difference to it, and the marker of a
`delete`. -/
theorem reads_iff (s : Section) (clause : Clause) :
    s.reads clause ↔ s.DependsOn clause ∨ s = .deletion ∧ clause = .deletion := by
  constructor
  · exact dependsOn_of_reads
  · rintro (depends | ⟨rfl, rfl⟩)
    · exact reads_of_dependsOn depends
    · rfl

end Section

/-! ### What makes up a statement -/

/-- The clauses that a statement of a kind has. -/
def StatementKind.admits : StatementKind → Clause → Bool
  | .select, clause =>
    clause = .cte || clause.isSource || clause = .output || clause = .filter ||
      clause = .grouping || clause = .having || clause = .ordering || clause = .limit ||
      clause = .offset
  | .insert, clause =>
    clause = .cte || clause.isSource || clause = .output || clause = .columns || clause = .rows
  | .update, clause =>
    clause = .cte || clause.isSource || clause = .output || clause = .filter ||
      clause = .assignment
  | .delete, clause =>
    clause = .cte || clause.isSource || clause = .output || clause = .filter ||
      clause = .deletion
  | .manual, clause => clause = .manual

/-- A statement has exactly the clauses that its sections read. -/
theorem StatementKind.admits_iff (kind : StatementKind) (clause : Clause) :
    kind.admits clause ↔ ∃ s ∈ kind.sections, s.reads clause := by
  cases kind with
  | _ => simp [admits, sections, Section.reads, or_assoc, or_comm, or_left_comm]

namespace Log

/-- A log of calls that belong together in a statement of the kind. -/
structure Suits (log : Log α) (kind : StatementKind) : Prop where
  /-- The calls demand the kind and no other one; if they demand nothing, it is `select`. -/
  demanded : (∀ other, log.Demands other → other = kind) ∧ (log.Demands kind ∨ kind = .select)
  /-- The statement has a clause for every call. -/
  admitted : ∀ call ∈ log, kind.admits call.clause

/-- The calls that declare columns and those that give rows go together: declared columns have
rows, and several declarations come one for each call of rows. -/
def LinesUp (log : Log α) : Prop :=
  let columns := (log.operandsOf .columns).length
  let rows := (log.operandsOf .rows).length
  (0 < columns → 0 < rows) ∧ (columns ≤ 1 ∨ columns = rows)

/-- The clauses whose calls a statement of the kind is refused for. -/
def refuses (kind : StatementKind) (clause : Clause) : Bool :=
  kind = .manual && clause ≠ .manual || kind.needsTarget && clause.isSelectOnly ||
    kind = .insert && clause = .filter

/-- Where a clause demands no other kind, it is refused exactly if the statement has no such
clause. -/
theorem admits_iff_not_refuses {kind : StatementKind} {clause : Clause}
    (demanded : ∀ other, clause.impliedKind? = some other → other = kind) :
    kind.admits clause ↔ refuses kind clause = false := by
  cases clause with
  | assignment | columns | rows | deletion | manual =>
    obtain rfl := demanded _ rfl
    decide
  | join join => cases kind <;> cases join <;> decide
  | _ => cases kind <;> decide

/-- The checks look for a call that the statement is refused for. -/
theorem checkClauses_eq_ok_iff_not_refuses (log : Log α) (kind : StatementKind) :
    log.checkClauses kind = .ok () ↔ log.uses (refuses kind) = false := by
  have distributed : log.uses (refuses kind) =
      (kind = .manual && log.uses (· ≠ .manual) || kind.needsTarget && log.uses Clause.isSelectOnly
        || kind = .insert && log.uses (· = .filter)) := by
    rw [Bool.eq_iff_iff]
    simp only [uses, refuses, List.any_eq_true, Bool.or_eq_true, Bool.and_eq_true]
    grind
  rw [distributed, checkClauses, Bool.or_eq_false_iff, Bool.or_eq_false_iff]
  simp only [← Bool.not_eq_true]
  split_ifs with other selectOnly filter
  · refine iff_of_false ?_ fun h => h.1.1 other
    intro passed
    cases passed
  · refine iff_of_false ?_ fun h => h.1.2 selectOnly
    intro passed
    cases passed
  · refine iff_of_false ?_ fun h => h.2 filter
    intro passed
    cases passed
  · exact iff_of_true rfl ⟨⟨other, selectOnly⟩, filter⟩

/-- If the calls demand no other kind, the checks let through the logs that have no call too many.
-/
theorem checkClauses_eq_ok_iff {log : Log α} {kind : StatementKind}
    (demanded : ∀ other, log.Demands other → other = kind) :
    log.checkClauses kind = .ok () ↔ ∀ call ∈ log, kind.admits call.clause := by
  have clausewise : ∀ call ∈ log,
      (refuses kind call.clause = false ↔ kind.admits call.clause) := by
    intro call hcall
    refine (admits_iff_not_refuses fun other implied => demanded other ?_).symm
    simpa [Demands, uses] using ⟨call, hcall, implied⟩
  rw [checkClauses_eq_ok_iff_not_refuses, uses, List.any_eq_false]
  simp only [Bool.not_eq_true]
  exact forall₂_congr clausewise

theorem eq_conflictingKinds_of_checkClauses {log : Log α} {kind : StatementKind} {e : Error}
    (h : log.checkClauses kind = .error e) :
    ∃ first second, e = .conflictingKinds first second := by
  unfold checkClauses at h
  split_ifs at h
  all_goals
    cases h
    exact ⟨_, _, rfl⟩

/-- Counting the calls is all there is to check of columns and rows here. -/
theorem checkColumns_eq_ok_iff (log : Log α) : log.checkColumns = .ok () ↔ log.LinesUp := by
  simp only [checkColumns, LinesUp]
  generalize (log.operandsOf .columns).length = columns, (log.operandsOf .rows).length = rows
  split_ifs with missing differ
  · simp only [Bool.and_eq_true, decide_eq_true_eq] at missing
    simp only [false_iff, not_and]
    intro declared
    omega
  · simp only [Bool.and_eq_true, decide_eq_true_eq] at differ
    simp only [false_iff, not_and]
    intro declared
    omega
  · simp only [Bool.and_eq_true, decide_eq_true_eq, not_and] at missing differ
    simp only [true_iff]
    constructor
    · intro declared
      have given := missing declared
      omega
    · by_cases several : 1 < columns
      · have same := differ several
        omega
      · omega

theorem eq_arity_of_checkColumns {log : Log α} {e : Error} (h : log.checkColumns = .error e) :
    ∃ fault, e = .arity fault := by
  simp only [checkColumns] at h
  split_ifs at h
  all_goals
    cases h
    exact ⟨_, rfl⟩

/-- A log belongs to one kind of statement at most. -/
theorem Suits.unique {log : Log α} {kind kind' : StatementKind} (h : log.Suits kind)
    (h' : log.Suits kind') : kind = kind' := by
  rcases h.demanded.2, h'.demanded.2 with ⟨demands | rfl, demands' | rfl⟩
  · exact h'.demanded.1 kind demands
  · exact h'.demanded.1 kind demands
  · exact (h.demanded.1 kind' demands').symm
  · rfl

/-- A log mixes statements, or its columns and rows do not go together, or it makes up a
statement. -/
theorem statementKind_cases (log : Log α) :
    (∃ first second, log.statementKind = .error (.conflictingKinds first second)) ∧
        (∀ kind, ¬ log.Suits kind) ∨
      (∃ fault, log.statementKind = .error (.arity fault)) ∧ log.Suits .insert ∧ ¬ log.LinesUp ∨
      ∃ kind, log.statementKind = .ok kind ∧ log.Suits kind ∧ (kind = .insert → log.LinesUp) := by
  have implied {kind : StatementKind} (h : log.Suits kind) : log.impliedKind = .ok kind :=
    (log.impliedKind_eq_ok_iff kind).2 h.demanded
  -- The three checks in their order: the kind that the calls imply, the clauses that this kind
  -- admits, and for an insert the numbers of columns and rows.
  cases hkind : log.impliedKind with
  | error e =>
    left
    obtain ⟨first, second, rfl⟩ := eq_conflictingKinds_of_impliedKind hkind
    refine ⟨⟨first, second, by rw [statementKind, hkind]; rfl⟩, fun kind suits => ?_⟩
    rw [implied suits] at hkind
    cases hkind
  | ok kind =>
    have demanded := (log.impliedKind_eq_ok_iff kind).1 hkind
    cases hclauses : log.checkClauses kind with
    | error e =>
      left
      obtain ⟨first, second, rfl⟩ := eq_conflictingKinds_of_checkClauses hclauses
      refine ⟨⟨first, second, ?_⟩, fun kind' suits => ?_⟩
      · simp only [statementKind, hkind, hclauses, bind, Except.bind]
      · rw [implied suits] at hkind
        cases hkind
        rw [(checkClauses_eq_ok_iff demanded.1).2 suits.admitted] at hclauses
        cases hclauses
    | ok =>
      right
      have suits : log.Suits kind :=
        ⟨demanded, (checkClauses_eq_ok_iff demanded.1).1 hclauses⟩
      by_cases insert : kind = .insert
      · subst insert
        cases hcolumns : log.checkColumns with
        | error e =>
          left
          obtain ⟨fault, rfl⟩ := eq_arity_of_checkColumns hcolumns
          refine ⟨⟨fault, ?_⟩, suits, fun linesUp => ?_⟩
          · simp only [statementKind, hkind, hclauses, hcolumns, bind, Except.bind, if_true]
          · rw [log.checkColumns_eq_ok_iff.2 linesUp] at hcolumns
            cases hcolumns
        | ok =>
          right
          refine ⟨.insert, ?_, suits, fun _ => log.checkColumns_eq_ok_iff.1 hcolumns⟩
          simp only [statementKind, hkind, hclauses, hcolumns, bind, Except.bind, if_true]
          rfl
      · right
        refine ⟨kind, ?_, suits, fun h => absurd h insert⟩
        simp only [statementKind, hkind, hclauses, bind, Except.bind, if_neg insert]
        rfl

theorem statementKind_eq_ok_iff (log : Log α) (kind : StatementKind) :
    log.statementKind = .ok kind ↔ log.Suits kind ∧ (kind = .insert → log.LinesUp) := by
  rcases log.statementKind_cases with
    ⟨⟨first, second, outcome⟩, mixed⟩ | ⟨⟨fault, outcome⟩, suits, crooked⟩ |
      ⟨kind', outcome, suits, straight⟩
  all_goals rw [outcome]
  · exact ⟨nofun, fun h => absurd h.1 (mixed kind)⟩
  · refine ⟨nofun, fun h => ?_⟩
    obtain rfl := suits.unique h.1
    exact absurd (h.2 rfl) crooked
  · constructor
    · rintro ⟨⟩
      exact ⟨suits, straight⟩
    · rintro ⟨suits', -⟩
      rw [suits.unique suits']

theorem statementKind_conflicting_iff (log : Log α) :
    (∃ first second, log.statementKind = .error (.conflictingKinds first second)) ↔
      ∀ kind, ¬ log.Suits kind := by
  rcases log.statementKind_cases with
    ⟨⟨first, second, outcome⟩, mixed⟩ | ⟨⟨fault, outcome⟩, suits, -⟩ | ⟨kind, outcome, suits, -⟩
  all_goals rw [outcome]
  · exact ⟨fun _ => mixed, fun _ => ⟨first, second, rfl⟩⟩
  · exact ⟨nofun, fun mixed => absurd suits (mixed .insert)⟩
  · exact ⟨nofun, fun mixed => absurd suits (mixed kind)⟩

theorem statementKind_arity_iff (log : Log α) :
    (∃ fault, log.statementKind = .error (.arity fault)) ↔ log.Suits .insert ∧ ¬ log.LinesUp := by
  rcases log.statementKind_cases with
    ⟨⟨first, second, outcome⟩, mixed⟩ | ⟨⟨fault, outcome⟩, suits, crooked⟩ |
      ⟨kind, outcome, suits, straight⟩
  all_goals rw [outcome]
  · exact ⟨nofun, fun h => absurd h.1 (mixed .insert)⟩
  · exact ⟨fun _ => ⟨suits, crooked⟩, fun _ => ⟨fault, rfl⟩⟩
  · refine ⟨nofun, fun h => ?_⟩
    obtain rfl := suits.unique h.1
    exact absurd (straight rfl) h.2

/-- A log makes up a statement of a kind exactly if its calls demand that kind, or nothing and it
is a `select`, if the statement has a clause for every call, and if the columns and rows of an
`insert` line up. Calls that mix statements are a conflict, and columns and rows that do not line
up a mismatch. The clauses of a statement are those that its sections read, and a section reads
those that make a difference to its text; only the call that makes a statement a `delete` makes
none. -/
theorem statementKind_spec (log : Log α) :
    (∀ kind, log.statementKind = .ok kind ↔ log.Suits kind ∧ (kind = .insert → log.LinesUp)) ∧
    ((∃ first second, log.statementKind = .error (.conflictingKinds first second)) ↔
      ∀ kind, ¬ log.Suits kind) ∧
    ((∃ fault, log.statementKind = .error (.arity fault)) ↔
      log.Suits .insert ∧ ¬ log.LinesUp) ∧
    (∀ (kind : StatementKind) clause, kind.admits clause ↔ ∃ s ∈ kind.sections, s.reads clause) ∧
    ∀ (s : Section) clause, s.reads clause ↔
      s.DependsOn clause ∨ s = .deletion ∧ clause = .deletion :=
  ⟨log.statementKind_eq_ok_iff, log.statementKind_conflicting_iff, log.statementKind_arity_iff,
    StatementKind.admits_iff, Section.reads_iff⟩

end Log

end SqlBuilder
