import SqlBuilder.Proofs.Insertion.Positional

/-!
# Columns declared again

Rows given by position are written if their calls are legible, if there is a row, and if the
columns are declared once or once for each row (`Insertion.Accepted`). Only the last declaration
counts, so all others may be left out (`Log.settled`), wherever they stand among the rows.
-/

namespace SqlBuilder

variable {α : Type}

namespace Insertion

variable {log : Log Term}

/-- What rows given by position need: calls that can be read one after the other, at least one
row, and one declaration of the columns, or one for each row. -/
structure Accepted (log : Log Term) : Prop extends Legible log where
  rows : log.operandsOf .rows ≠ []
  declarations : (log.operandsOf .columns).length = 1 ∨
    (log.operandsOf .columns).length = (log.operandsOf .rows).length

theorem accepted_iff : Accepted log ↔
    (Legible log ∧ log.operandsOf .rows ≠ []) ∧ log.LinesUp := by
  constructor
  · rintro ⟨legible, rows, declarations⟩
    have given := List.length_pos_iff.2 rows
    refine ⟨⟨legible, rows⟩, fun _ => given, ?_⟩
    omega
  · rintro ⟨⟨legible, rows⟩, -, linesUp⟩
    have declared := List.length_pos_iff.2 (legible.declared rows)
    refine ⟨legible, rows, ?_⟩
    omega

end Insertion

namespace Log

/-- The log with the last declaration of columns alone, in front of all rows. -/
def settled (log : Log α) : Log α :=
  log.only (fun clause => clause ≠ .columns && clause ≠ .rows) ++
    ((log.only (· = .columns)).getLast?.toList ++ log.only (· = .rows))

theorem settled_map {β : Type} (f : α → β) (log : Log α) :
    settled (log.map (Call.map f)) = log.settled.map (Call.map f) := by
  simp only [settled, only_map, List.getLast?_map, List.map_append, Option.toList_map]

theorem mem_of_mem_settled {log : Log α} {call : Call α} (h : call ∈ log.settled) :
    call ∈ log := by
  rw [settled, List.mem_append, List.mem_append, Option.mem_toList] at h
  rcases h with other | last | row
  · exact List.mem_of_mem_filter other
  · exact List.mem_of_mem_filter (List.mem_of_getLast? last)
  · exact List.mem_of_mem_filter row

/-- Calls of one clause are kept or left out together. -/
theorem only_of_clause {log : Log α} {clause : Clause} (h : ∀ call ∈ log, call.clause = clause)
    (p : Clause → Bool) : log.only p = if p clause then log else [] := by
  split_ifs with kept
  · exact List.filter_eq_self.2 fun call hcall => by rw [h call hcall, kept]
  · exact List.filter_eq_nil_iff.2 fun call hcall => by rwa [h call hcall]

/-- Settling keeps the other calls in front, then the last declaration, then the rows. -/
theorem only_settled (log : Log α) (p : Clause → Bool) : log.settled.only p =
    (log.only fun clause => clause ≠ .columns && clause ≠ .rows && p clause) ++
      ((if p .columns then (log.only (· = .columns)).getLast?.toList else []) ++
        if p .rows then log.only (· = .rows) else []) := by
  have last : ∀ call ∈ (log.only (· = .columns)).getLast?.toList, call.clause = .columns := by
    intro call hcall
    have kept := List.mem_of_getLast? (Option.mem_toList.1 hcall)
    exact of_decide_eq_true (List.mem_filter.1 kept).2
  have rows : ∀ call ∈ log.only (· = .rows), call.clause = .rows :=
    fun call hcall => of_decide_eq_true (List.mem_filter.1 hcall).2
  rw [← only_of_clause last, ← only_of_clause rows, settled]
  simp only [only, List.filter_append, List.filter_filter, Bool.and_comm]

theorem only_none (log : Log α) {p : Clause → Bool} (h : ∀ clause, p clause = false) :
    log.only p = [] :=
  List.filter_eq_nil_iff.2 fun call _ => by simp [h]

/-- A settled log has one declaration at most, in front of all rows. -/
theorem lines_settled (log : Log α) : log.settled.lines =
    (log.only (· = .columns)).getLast?.toList ++ log.only (· = .rows) := by
  rw [lines, only_settled, only_none log]
  · rfl
  · intro clause
    cases clause <;> rfl

/-- Calls that neither declare columns nor give rows stay as they are. -/
theorem only_settled_of_others (log : Log α) {p : Clause → Bool} (columns : p .columns = false)
    (rows : p .rows = false) : log.settled.only p = log.only p := by
  have others : (fun clause : Clause => clause ≠ .columns && clause ≠ .rows && p clause) = p := by
    funext clause
    cases clause with
    | columns => exact columns.symm
    | rows => exact rows.symm
    | _ => rfl
  rw [only_settled, others, columns, rows]
  exact List.append_nil _

/-- Only the last declaration is kept. -/
theorem operandsOf_settled_columns (log : Log α) :
    log.settled.operandsOf .columns = (log.operandsOf .columns).getLast?.toList := by
  rw [operandsOf_eq_only, operandsOf_eq_only, only_settled, only_none log]
  · simp [List.getLast?_map, Option.toList_map]
  · intro clause
    cases clause <;> rfl

/-- Settling changes no clause but that of the declarations. -/
theorem operandsOf_settled (log : Log α) {clause : Clause} (other : clause ≠ .columns) :
    log.settled.operandsOf clause = log.operandsOf clause := by
  rw [operandsOf_eq_only, operandsOf_eq_only]
  by_cases rows : clause = .rows
  · subst rows
    rw [only_settled, only_none log]
    · rfl
    · intro clause
      cases clause <;> rfl
  · rw [only_settled_of_others log (decide_eq_false (Ne.symm other))
      (decide_eq_false (Ne.symm rows))]

theorem ofLog_settled (log : Log Term) : Source.ofLog log.settled = Source.ofLog log := by
  rw [← Source.ofLog_only, log.only_settled_of_others rfl rfl, Source.ofLog_only]

/-- Settling an insert keeps it one, since rows are among its calls. -/
theorem Suits.settled {log : Log α} (h : log.Suits .insert) (rows : log.operandsOf .rows ≠ []) :
    log.settled.Suits .insert := by
  have smaller : ∀ kind, log.settled.Demands kind → log.Demands kind := by
    intro kind demands
    obtain ⟨call, hcall, implied⟩ := List.any_eq_true.1 demands
    exact List.any_eq_true.2 ⟨call, mem_of_mem_settled hcall, implied⟩
  have demanded : log.settled.Demands .insert := by
    rw [← operandsOf_settled log (by decide : Clause.rows ≠ .columns), operandsOf_eq_only] at rows
    obtain ⟨operands, hoperands⟩ := List.exists_mem_of_ne_nil _ rows
    obtain ⟨call, hcall, -⟩ := List.mem_map.1 hoperands
    obtain ⟨hcall, clause⟩ := List.mem_filter.1 hcall
    refine List.any_eq_true.2 ⟨call, hcall, ?_⟩
    rw [of_decide_eq_true clause]
    rfl
  exact ⟨⟨fun other demands => h.demanded.1 other (smaller other demands), .inl demanded⟩,
    fun call hcall => h.admitted call (mem_of_mem_settled hcall)⟩

variable {log : Log Term} {config : Config} {target : Term}

theorem Insertable.settled (h : log.Insertable config target) (rows : log.operandsOf .rows ≠ []) :
    log.settled.Insertable config target := by
  refine ⟨h.suits.settled rows, log.ofLog_settled.trans h.sources, h.target, ?_, ?_⟩
  · rw [operandsOf_settled_columns]
    intro columns hcolumns
    exact h.columns columns (List.mem_of_getLast? (Option.mem_toList.1 hcolumns))
  · rw [allOperands, log.operandsOf_settled (by decide)]
    exact h.rows

/-- What stands around an insertion does not depend on its declarations. -/
theorem Framed.settled {before after : Fragment} (h : log.Framed before after) :
    log.settled.Framed before after := by
  refine ⟨?_, ?_, ?_⟩
  · rw [target?, log.operandsOf_settled (by decide)]
    exact h.target
  · have same : log.settled.ctes = log.ctes := by
      simp only [Log.ctes, operandsOf_settled log (by decide : Clause.cte ≠ .columns)]
    exact same.trans h.ctes
  · rw [keyedList, allOperands, log.operandsOf_settled (by decide)]
    exact h.returning

end Log

/-- The last declaration alone suffices for rows that were accepted with all of them. -/
theorem Insertion.Accepted.settled {log : Log Term} (h : Accepted log) : Accepted log.settled := by
  have declared := List.getLast?_eq_some_getLast (h.declared h.rows)
  have columns := log.operandsOf_settled_columns
  have rows := log.operandsOf_settled (by decide : Clause.rows ≠ .columns)
  rw [declared, Option.toList_some] at columns
  refine ⟨⟨?_, ?_, ?_⟩, ?_, ?_⟩
  · intro call hcall
    have calls := h.declared h.rows
    rw [Log.operandsOf_eq_only, ne_eq, List.map_eq_nil_iff] at calls
    rw [Log.lines_settled, List.getLast?_eq_some_getLast calls] at hcall
    obtain rfl := Option.some.inj hcall
    exact of_decide_eq_true (List.mem_filter.1 (List.getLast_mem calls)).2
  · rw [columns]
    exact .singleton _
  · rw [columns, rows]
    exact List.forall_mem_singleton.2 (h.width _ (List.mem_of_getLast? declared))
  · rw [rows]
    exact h.rows
  · rw [columns]
    exact .inl rfl

namespace Query

/-- The query with the last declaration of columns alone. -/
def settled (q : Query Operand) : Query Operand := { q with history := q.log.settled.reverse }

theorem terms_settled (q : Query Operand) : q.settled.terms = q.terms.settled := by
  rw [terms, terms, Log.settled_map]
  simp [settled, log]

section

variable {q : Query Operand} {target : Term} {before after : Fragment}
  (h : q.terms.Insertable q.config target) (framed : q.terms.Framed before after)
  (given : ∀ values ∈ q.terms.operandsOf .rows,
    values ≠ [] ∧ ∀ t ∈ values, t.isRecord = false)

include h framed given

/-- An insert of rows given by position. -/
theorem compile_positional (linesUp : q.terms.LinesUp) {name : Fragment}
    (hname : target.item = .ok name) :
    q.compile = (Insertion.ofPositional q.terms).map fun rows =>
      ⟨.insert, (Fragment.join [before, (Fragment.headed "insert into" name).push " " ++ rows,
        after] " ").toStatement⟩ := by
  have kind := (Log.statementKind_eq_ok_iff _ _).2 ⟨h.suits, fun _ => linesUp⟩
  have forms : (q.terms.operandsOf .rows).mapM Insertion.rowForm =
      .ok ((q.terms.operandsOf .rows).map fun _ => .positional) :=
    mapM_eq_ok_map fun values hvalues =>
      Insertion.rowForm_of_values (given values hvalues).1 (given values hvalues).2
  have list : Insertion.list q.config q.terms = Insertion.ofPositional q.terms := by
    rw [Insertion.list, forms]
    simp [bind, Except.bind]
  rw [compile_of_framed kind framed, h.insertion_eq hname, list]
  cases Insertion.ofPositional q.terms <;> rfl

/-- The rows are accepted and written, or they are refused. -/
theorem positional_cases :
    Insertion.Accepted q.terms ∧ (∃ c, q.compile = .ok c) ∨
      ¬ Insertion.Accepted q.terms ∧ ∃ fault, q.compile = .error (.arity fault) := by
  obtain ⟨name, hname⟩ := isOk_iff.1 h.target
  have written := h.writable fun values hvalues => (given values hvalues).2
  rw [Insertion.accepted_iff]
  by_cases linesUp : q.terms.LinesUp
  · rw [compile_positional h framed given linesUp hname]
    rcases Insertion.ofPositional_cases written with ⟨legible, text, htext⟩ | ⟨illegible, fault, e⟩
    · rw [htext]
      exact .inl ⟨⟨legible, linesUp⟩, _, rfl⟩
    · rw [e]
      exact .inr ⟨fun accepted => illegible accepted.1, fault, rfl⟩
  · obtain ⟨fault, e⟩ := (Log.statementKind_arity_iff _).2 ⟨h.suits, linesUp⟩
    refine .inr ⟨fun accepted => linesUp accepted.2, fault, ?_⟩
    rw [compile, statement_eq_map, ← terms, Log.statement, e]
    rfl

/-- Declarations before the last one make no difference. -/
theorem compile_settled (accepted : Insertion.Accepted q.terms) :
    q.compile = q.settled.compile := by
  obtain ⟨name, hname⟩ := isOk_iff.1 h.target
  have written := h.writable fun values hvalues => (given values hvalues).2
  have linesUp := (Insertion.accepted_iff.1 accepted).2
  have settled := Insertion.accepted_iff.1 accepted.settled
  have rows := q.terms.operandsOf_settled (by decide : Clause.rows ≠ .columns)
  have last : (q.terms.operandsOf .columns).getLast? =
      (q.terms.settled.operandsOf .columns).getLast? := by
    rw [Log.operandsOf_settled_columns]
    cases (q.terms.operandsOf .columns).getLast? <;> rfl
  have same : Insertion.ofPositional q.terms = Insertion.ofPositional q.terms.settled :=
    Insertion.ofPositional_unique written
      (fun call hcall => written call (Log.mem_of_mem_settled hcall)) accepted.toLegible
      settled.1.1 last rows.symm
  rw [compile_positional h framed given linesUp hname, same, ← terms_settled,
    compile_positional _ _ _ _ hname]
  all_goals rw [terms_settled]
  · exact h.settled accepted.rows
  · exact framed.settled
  · exact rows.symm ▸ given
  · exact settled.2

/-- Where target, columns and values can be written, positional rows are written if there is one
and it comes behind the columns, if the columns are declared once or once for each row, always
alike, and if every row has a value for each column; otherwise they are refused. What is written
is what the last declaration and the rows in order give, wherever the other declarations stood. -/
theorem positional_accepted :
    ((∃ c, q.compile = .ok c) ↔ Insertion.Accepted q.terms) ∧
    (¬ Insertion.Accepted q.terms → ∃ fault, q.compile = .error (.arity fault)) ∧
    (Insertion.Accepted q.terms → q.compile = q.settled.compile) := by
  rcases positional_cases h framed given with ⟨accepted, compiles⟩ | ⟨rejected, fault, refused⟩
  · exact ⟨iff_of_true compiles accepted, absurd accepted, compile_settled h framed given⟩
  · refine ⟨iff_of_false ?_ rejected, fun _ => ⟨fault, refused⟩, fun h => absurd h rejected⟩
    rintro ⟨c, hc⟩
    rw [refused] at hc
    cases hc

end

/-- Guests, for each of whom the columns are declared; the parameter of a column is declared with
it. -/
def guests : Query Operand :=
  let columns : List Expr := ["name", .template ⟨["seats[", "]"], [.value (.int 1)]⟩]
  (((((Query.new Config.identity).table "guest").columns columns).values
    [.value (.text "Ann"), .value (.int 4)]).columns columns).values
      [.value (.text "Bob"), .default]

theorem positional_accepted_guests :
    let q := guests
    ∃ target before after, q.terms.Insertable q.config target ∧ q.terms.Framed before after ∧
      (∀ values ∈ q.terms.operandsOf .rows, values ≠ [] ∧ ∀ t ∈ values, t.isRecord = false) ∧
      Insertion.Accepted q.terms ∧ q.compile = q.settled.compile ∧
      ∃ c, q.compile = .ok c ∧
        c.statement = ⟨"insert into guest (name, seats[$1]) values ($2, $3), ($4, default)",
          [.int 1, .text "Ann", .int 4, .text "Bob"]⟩ := by
  intro q
  have compiles : ∃ c, q.compile = .ok c ∧
      c.statement = ⟨"insert into guest (name, seats[$1]) values ($2, $3), ($4, default)",
        [.int 1, .text "Ann", .int 4, .text "Bob"]⟩ := ⟨_, rfl, rfl⟩
  have insertable : q.terms.Insertable q.config (.raw "guest") := by
    refine ⟨?_, rfl, rfl, ?_, ?_⟩
    · exact ((Log.statementKind_eq_ok_iff q.terms .insert).1 rfl).1
    · decide +kernel
    · have written : ∀ t ∈ q.terms.allOperands .rows, t.operand.isOk := by decide +kernel
      exact fun t ht => Term.fitsRow_of_operand (written t ht)
  have framed : q.terms.Framed .empty .empty := ⟨rfl, rfl, rfl⟩
  have given : ∀ values ∈ q.terms.operandsOf .rows,
      values ≠ [] ∧ ∀ t ∈ values, t.isRecord = false := by
    have filled : ∀ values ∈ q.terms.operandsOf .rows,
        0 < values.length ∧ ∀ t ∈ values, t.isRecord = false := by decide +kernel
    exact fun values hvalues => ⟨List.length_pos_iff.1 (filled values hvalues).1,
      (filled values hvalues).2⟩
  obtain ⟨accepted, -, settled⟩ := positional_accepted insertable framed given
  have lines := accepted.1 (compiles.imp fun c h => h.1)
  exact ⟨.raw "guest", .empty, .empty, insertable, framed, given, lines, settled lines, compiles⟩

/-- Rows that are accepted are refused all the same behind an empty list of tables: the sections
find the only table, but the check for a target does not. -/
theorem positional_untargeted :
    let q := ((((Query.new Config.default).tables []).table "t").columns ["a"]).values
      [.value (.int 1)]
    q.terms.Insertable q.config (.raw "t") ∧
      (∀ values ∈ q.terms.operandsOf .rows, values ≠ [] ∧ ∀ t ∈ values, t.isRecord = false) ∧
      Insertion.Accepted q.terms ∧
      (∃ text, q.terms.insertion q.config = .ok text ∧
        text.toStatement = ⟨"insert into t (a) values ($1)", [.int 1]⟩) ∧
      q.compile = .error (.missingTarget .insert) := by
  intro q
  have insertable : q.terms.Insertable q.config (.raw "t") := by
    refine ⟨?_, rfl, rfl, ?_, ?_⟩
    · exact ((Log.statementKind_eq_ok_iff q.terms .insert).1 rfl).1
    · exact List.forall_mem_singleton.2 rfl
    · exact List.forall_mem_singleton.2 rfl
  have given : ∀ values ∈ q.terms.operandsOf .rows,
      values ≠ [] ∧ ∀ t ∈ values, t.isRecord = false :=
    List.forall_mem_singleton.2 ⟨nofun, List.forall_mem_singleton.2 rfl⟩
  have accepted : Insertion.Accepted q.terms := by
    refine ⟨⟨?_, .singleton _, ?_⟩, nofun, .inl rfl⟩
    · rintro _ ⟨⟩
      rfl
    · exact List.forall_mem_singleton.2 (List.forall_mem_singleton.2 rfl)
  exact ⟨insertable, given, accepted, ⟨_, rfl, rfl⟩, rfl⟩

end Query

end SqlBuilder
