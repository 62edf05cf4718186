import Mathlib.Tactic.SplitIfs
import SqlBuilder.Compile
import SqlBuilder.Proofs.Forms
import SqlBuilder.Proofs.Log
import SqlBuilder.Proofs.Separable.Term

/-!
# Statements that may stand between separators

When the operands of a log are separable, every section of its statement may stand between
separators, and so may the whole statement. The names of common table expressions do not matter:
only identifiers get through.
-/

namespace SqlBuilder

variable {config : Config}

/-- Every operand of the log may stand between separators. -/
def Log.Separable (log : Log Term) : Prop := ∀ call ∈ log, ∀ t ∈ call.sqlOperands, t.Separable

/-! ### Sources -/

namespace Source

/-- Every operand of the source may stand between separators. -/
def Separable (s : Source) : Prop := ∀ t ∈ s.operands, t.Separable

theorem separable_ofLog {log : Log Term} (h : log.Separable) : ∀ s ∈ ofLog log, s.Separable := by
  intro s hs
  obtain ⟨call, hcall, hs⟩ := List.mem_flatMap.1 hs
  have separable := h call hcall
  unfold ofCall at hs
  split at hs
  · rename_i table
    rw [Call.sqlOperands_of_ne (by simp [table])] at separable
    obtain ⟨t, ht, rfl⟩ := List.mem_map.1 hs
    intro u hu
    rw [List.mem_singleton.1 hu]
    exact separable t ht
  · rename_i join
    rw [Call.sqlOperands_of_ne (by simp [join])] at separable
    rw [List.mem_singleton.1 hs]
    exact separable
  · simp at hs

/-- The keyword of a join stands between blanks. -/
theorem isSeparating_keyword (kind : Join) :
    Fragment.isSeparating (" " ++ kind.keyword ++ " ") := by
  cases kind <;> decide

/-- The condition of a join is set apart from what stands before it by ` on `. -/
theorem separable_joinCondition {kind : Join} {c : Option Condition}
    (h : ∀ d ∈ c, d.Separable) {f : Fragment} (hf : f.Separable) :
    Ensures (joinCondition kind c) fun on => (f ++ on).Separable := by
  cases c with
  | none =>
    unfold joinCondition
    split_ifs
    · exact .ok (hf.of_symbols (by simp))
    · exact .error _
  | some c =>
    unfold joinCondition
    split_ifs
    · exact .error _
    · exact .ok ((hf.around " on " (by decide) (h c rfl).render).of_symbols (by simp))

/-- A join is attached to what stands before it. -/
theorem separable_joinText {kind : Join} {ts : List Term} (h : ∀ t ∈ ts, t.Separable)
    {f : Fragment} (hf : f.Separable) :
    Ensures (joinText config kind ts) fun text => (f ++ text).Separable := by
  cases ts with
  | nil => exact .error _
  | cons target conditions =>
    refine (h target List.mem_cons_self).item.bind fun item hitem => ?_
    have separable : ∀ t ∈ conditions, t.Separable :=
      fun t ht => h t (List.mem_cons_of_mem target ht)
    refine (Term.Separable.anyOf config separable).bind fun c hc => ?_
    have attached := hf.around _ (isSeparating_keyword kind) hitem
    refine (separable_joinCondition hc attached).bind fun on hon => .ok ?_
    exact hon.of_symbols (by simp)

/-- A source is set apart from those before it by a comma or by the keyword of a join. -/
theorem separable_list {sources : List Source} (h : ∀ s ∈ sources, s.Separable) :
    GivesSeparable (list config sources) := by
  have fold : Ensures (sources.foldlM (extend config) []) fun texts =>
      (Fragment.concat texts.reverse).Separable := by
    refine Ensures.foldlM (fun before hbefore s hs => ?_) Fragment.separable_empty
    have separable := h s hs
    cases s with
    | table t =>
      refine (separable t List.mem_cons_self).item.map fun item hitem => ?_
      split_ifs
      · exact (hbefore.around ", " (by decide) hitem).of_symbols (by simp)
      · exact Fragment.separable_empty
      · exact hitem.of_symbols (by simp)
    | join kind ts =>
      unfold extend
      simp only
      split_ifs
      · exact .error _
      · exact (separable_joinText separable hbefore).map fun text htext =>
          htext.of_symbols (by simp)
  exact fold.map fun _ h => h

theorem separable_splitTarget {sources : List Source} (h : ∀ s ∈ sources, s.Separable) :
    Ensures (splitTarget sources) fun s => s.1.Separable ∧ ∀ other ∈ s.2, other.Separable := by
  cases sources with
  | nil => exact .error _
  | cons s sources =>
    cases s with
    | table t =>
      exact .ok ⟨h (.table t) List.mem_cons_self t List.mem_cons_self,
        fun s hs => h s (List.mem_cons_of_mem _ hs)⟩
    | join => exact .error _

end Source

/-! ### Rows to insert -/

namespace Insertion

/-- The name of a column has been checked. -/
def IsColumn (name : String) : Prop := ∃ text, Ident.checked text = .ok name

/-- A row of separable terms below checked columns. -/
def SeparableRow (row : Row) : Prop := ∀ e ∈ row, IsColumn e.1 ∧ e.2.Separable

/-- The columns of a row come from keys that have been checked. -/
theorem separable_rowsOf {ts : List Term} (h : ∀ t ∈ ts, t.Separable) :
    Ensures (rowsOf config ts) fun rows => ∀ row ∈ rows, SeparableRow row := by
  apply Ensures.mapM_forall
  intro r hr
  obtain ⟨t, ht, hr⟩ := List.mem_filterMap.1 hr
  apply Ensures.mapM_forall
  intro e he
  have separable := (h t ht).entries? hr e he
  exact (ensures_checked (config.inputKey e.1)).map fun name hname => ⟨⟨_, hname⟩, separable⟩

/-- All columns have been checked, because those of every row have been. -/
theorem isColumn_of_columnsOf {rows : List Row} (h : ∀ row ∈ rows, SeparableRow row) :
    ∀ name ∈ columnsOf rows, IsColumn name := by
  intro name hname
  rw [columnsOf, List.mem_eraseDups] at hname
  obtain ⟨row, hrow, hname⟩ := List.mem_flatMap.1 hname
  obtain ⟨e, he, rfl⟩ := List.mem_map.1 hname
  exact (h row hrow e he).1

/-- A list of checked names may stand between separators. -/
theorem separable_columns {columns : List String} (h : ∀ name ∈ columns, IsColumn name) :
    (Fragment.ofSql (", ".intercalate columns)).Separable := by
  rw [Fragment.Separable, Fragment.symbols_ofSql, String.toList_intercalate]
  induction columns with
  | nil => exact .nil
  | cons name columns ih =>
    obtain ⟨text, checked⟩ := h name List.mem_cons_self
    have first := Fragment.separable_checked checked
    have rest := ih fun name' hname' => h name' (List.mem_cons_of_mem name hname')
    cases columns with
    | nil => simpa [List.intercalate, Fragment.Separable] using first
    | cons name' columns =>
      have others : (Fragment.ofSql (", ".intercalate (name' :: columns))).Separable := by
        rw [Fragment.Separable, Fragment.symbols_ofSql, String.toList_intercalate]
        exact rest
      have both := first.around ", " (by decide) others
      simpa [Fragment.Separable, List.intercalate, String.toList_intercalate] using both

theorem separable_cell {row : Row} (h : SeparableRow row) (column : String) :
    GivesSeparable (cell row column) := by
  unfold cell
  split
  · rename_i e found
    exact (h e (List.mem_reverse.1 (List.mem_of_find?_eq_some found))).2.operand
  · exact .ok (Fragment.separable_ofSql (by decide))

theorem separable_tuple {fs : List Fragment} (h : ∀ f ∈ fs, f.Separable) :
    (tuple fs).Separable :=
  (Fragment.Separable.join ", " (by decide) h).parenthesized

/-- The columns and the tuples are set apart by `values` between their parentheses. -/
theorem separable_ofRows {rows : List Row} (h : ∀ row ∈ rows, SeparableRow row) :
    GivesSeparable (ofRows rows) := by
  have columns := isColumn_of_columnsOf h
  unfold ofRows
  simp only
  split_ifs
  · exact .error _
  · exact .ok (Fragment.separable_ofSql (by decide))
  · exact .error _
  · have tuples : Ensures (rows.mapM fun row => ((columnsOf rows).mapM (cell row)).map tuple)
        fun fs => ∀ f ∈ fs, f.Separable := by
      apply Ensures.mapM_forall
      intro row hrow
      have cells := Ensures.mapM_forall fun column (_ : column ∈ columnsOf rows) =>
        separable_cell (h row hrow) column
      exact cells.map fun fs hfs => separable_tuple hfs
    refine tuples.bind fun fs hfs => .ok ?_
    have body := (separable_columns columns).around ") values " (by decide)
      (.join ", " (by decide) hfs)
    rw [Fragment.Separable] at body ⊢
    simpa using Sql.Separable.between (c := '(') (by decide) .nil body

/-- Positional rows read so far. -/
structure Positional.Separable (p : Positional) : Prop where
  header : ∀ h ∈ p.header, h.1.Separable
  tuples : ∀ f ∈ p.tuples, f.Separable

/-- One more call keeps what has been read separable. -/
theorem separable_step {p : Positional} (hp : p.Separable) {call : Call Term}
    (h : ∀ t ∈ call.sqlOperands, t.Separable) : Ensures (p.step call) Positional.Separable := by
  unfold Positional.step
  split
  · rename_i columns
    rw [Call.sqlOperands_of_ne (by simp [columns])] at h
    refine (Term.Separable.list h).bind fun names hnames => ?_
    have declared : ({ p with header := some (names, call.operands.length) } :
        Positional).Separable := ⟨fun _ hh => by cases hh; exact hnames, hp.tuples⟩
    split
    · split_ifs
      · exact .error _
      · exact .ok declared
    · exact .ok declared
  · rename_i rows
    rw [Call.sqlOperands_of_ne (by simp [rows])] at h
    unfold Positional.addRow
    split
    · exact .error _
    · split_ifs
      · exact .error _
      · refine (Ensures.mapM_forall fun t ht => (h t ht).operand).map fun fs hfs => ?_
        exact ⟨hp.header, List.forall_mem_cons.2 ⟨separable_tuple hfs, hp.tuples⟩⟩
  · exact .ok hp

theorem separable_text {p : Positional} (hp : p.Separable) : GivesSeparable p.text := by
  unfold Positional.text
  split
  · exact .error _
  · rename_i names width header
    split_ifs
    · exact .error _
    · refine .ok ((hp.header _ header).parenthesized.around " values " (by decide)
        (.join ", " (by decide) ?_))
      exact fun f hf => hp.tuples f (List.mem_reverse.1 hf)

end Insertion

namespace Log

/-- The computation gives a fragment that may stand between separators, if the log is
separable. -/
theorem separable_insertionList {log : Log Term} (h : log.Separable)
    (rows : ∀ t ∈ log.allOperands .rows, t.Separable) :
    GivesSeparable (Insertion.list config log) := by
  apply Ensures.bind_any
  intro forms
  split_ifs
  · have start : (⟨none, []⟩ : Insertion.Positional).Separable :=
      ⟨by simp, by simp⟩
    have read := Ensures.foldlM
      (fun p hp call hcall => Insertion.separable_step hp (h call hcall)) start
    exact read.bind fun p hp => Insertion.separable_text hp
  · exact .error _
  · exact (Insertion.separable_rowsOf rows).bind fun rows hrows => Insertion.separable_ofRows hrows

namespace Separable

variable {log : Log Term}

/-- The operands of a call of a clause. -/
theorem sqlOperands (h : log.Separable) {clause : Clause} {ts : List Term}
    (hts : ts ∈ log.operandsOf clause) : ∀ t ∈ (Call.mk clause ts).sqlOperands, t.Separable := by
  obtain ⟨call, hcall, rfl⟩ := List.mem_map.1 hts
  obtain ⟨mem, same⟩ := List.mem_filter.1 hcall
  obtain rfl : call.clause = clause := by simpa using same
  exact h call mem

/-- Common table expressions aside, all operands of a call are written as SQL. -/
theorem operandsOf (h : log.Separable) {clause : Clause} (other : clause ≠ .cte) :
    ∀ ts ∈ log.operandsOf clause, ∀ t ∈ ts, t.Separable := by
  intro ts hts
  have separable := h.sqlOperands hts
  rwa [Call.sqlOperands_of_ne other] at separable

theorem allOperands (h : log.Separable) {clause : Clause} (other : clause ≠ .cte) :
    ∀ t ∈ log.allOperands clause, t.Separable := by
  unfold Log.allOperands
  exact List.forall_mem_flatten.2 (h.operandsOf other)

theorem keyedList (h : log.Separable) {clause : Clause} (other : clause ≠ .cte) (keyword : String)
    (inert : keyword.toList.all Sql.isInert) : GivesSeparable (log.keyedList clause keyword) := by
  have items := Term.Separable.list (h.allOperands other)
  exact items.map fun f hf => hf.headedUnlessEmpty keyword inert

theorem keyedCondition (h : log.Separable) {clause : Clause} (other : clause ≠ .cte)
    (keyword : String) (inert : keyword.toList.all Sql.isInert) :
    GivesSeparable (log.keyedCondition config clause keyword) := by
  have calls := Ensures.mapM_forall (f := Condition.anyOf config)
    fun ts hts => Term.Separable.anyOf config (h.operandsOf other ts hts)
  refine calls.bind fun cs hcs => ?_
  have all := Condition.separable_conjoin (Condition.forall_filterMap hcs)
  split
  · exact .ok Fragment.separable_empty
  · rename_i c some
    exact .ok ((all c some).render.headed keyword inert)

theorem keyedLast (h : log.Separable) {clause : Clause} (other : clause ≠ .cte) (keyword : String)
    (inert : keyword.toList.all Sql.isInert) : GivesSeparable (log.keyedLast clause keyword) := by
  unfold Log.keyedLast
  split
  · exact .ok Fragment.separable_empty
  · rename_i t last
    obtain ⟨ts, hts, ht⟩ := Option.bind_eq_some_iff.1 last
    have separable := h.operandsOf other ts (List.mem_of_getLast? hts) t (List.mem_of_head? ht)
    exact separable.operand.map fun _ hf => hf.headed keyword inert

theorem cteItem {e : String × Term} (h : e.2.Separable) : GivesSeparable (Log.cteItem e) := by
  refine (ensures_checked e.1).bind fun name hname => ?_
  refine h.body.bind fun f hf => .ok ?_
  exact hf.parenthesized.checked_append hname " as " (by decide)

/-- The alias of a body is a name, whatever text it is given as. -/
theorem cteItems {ts : List Term} (h : ∀ t ∈ (Call.mk .cte ts).sqlOperands, t.Separable) :
    Ensures (Log.cteItems ts) fun fs => ∀ f ∈ fs, f.Separable := by
  unfold Log.cteItems
  split
  · rename_i name body
    refine (cteItem (e := (name, body)) (h body List.mem_cons_self)).map fun f hf g hg => ?_
    rw [List.mem_singleton.1 hg]
    exact hf
  · rename_i t
    split
    · rename_i r hr
      exact Ensures.mapM_forall fun e he => cteItem ((h t List.mem_cons_self).entries? hr e he)
    · exact .error _
  · exact .error _

theorem ctes (h : log.Separable) : GivesSeparable log.ctes := by
  unfold Log.ctes
  split
  · exact .ok Fragment.separable_empty
  · have groups := Ensures.mapM_forall fun ts hts => cteItems (h.sqlOperands hts)
    refine groups.map fun groups hgroups => ?_
    have all : ∀ f ∈ groups.flatten, f.Separable := List.forall_mem_flatten.2 hgroups
    exact (Fragment.Separable.join ", " (by decide) all).headed "with" (by decide)

theorem insertion (h : log.Separable) : GivesSeparable (log.insertion config) := by
  refine (Source.separable_splitTarget (Source.separable_ofLog h)).bind fun s hs => ?_
  simp only
  split_ifs
  · exact .error _
  · refine hs.1.item.bind fun item hitem => ?_
    refine (separable_insertionList h (h.allOperands (by decide))).bind fun rows hrows => .ok ?_
    exact ((hitem.headed "insert into" (by decide)).around " " (by decide)
      hrows).of_symbols (by simp)

/-- Assignments are set apart by commas, however many of them a mapping gives. -/
theorem assignmentList (h : log.Separable) : GivesSeparable (Assignment.list config log) := by
  have groups : Ensures ((log.allOperands .assignment).mapM (Assignment.ofTerm config))
      fun groups => ∀ group ∈ groups, ∀ f ∈ group, f.Separable := by
    apply Ensures.mapM_forall
    intro t ht
    have separable := h.allOperands (by decide) t ht
    unfold Assignment.ofTerm
    split
    · rename_i r hr
      exact Ensures.mapM_forall fun e he =>
        Term.Separable.equation config (separable.entries? hr e he)
    · refine separable.body.map fun f hf g hg => ?_
      rw [List.mem_singleton.1 hg]
      exact hf
  refine groups.bind fun groups hgroups => ?_
  simp only
  split_ifs
  · exact .error _
  · exact .ok (.join ", " (by decide) (List.forall_mem_flatten.2 hgroups))

theorem assignment (h : log.Separable) : GivesSeparable (log.assignment config) := by
  refine (Source.separable_splitTarget (Source.separable_ofLog h)).bind fun s hs => ?_
  refine h.assignmentList.bind fun assignments hassignments => ?_
  refine hs.1.item.bind fun item hitem => .ok ?_
  exact ((hitem.headed "update" (by decide)).around " " (by decide)
    (hassignments.headed "set" (by decide))).of_symbols (by simp)

theorem otherSources (h : log.Separable) : GivesSeparable (log.otherSources config) := by
  refine (Source.separable_splitTarget (Source.separable_ofLog h)).bind fun s hs => ?_
  exact (Source.separable_list hs.2).bind fun sources hsources =>
    .ok (hsources.headedUnlessEmpty "from" (by decide))

/-- The sources beside the target are set apart by ` using `, or there are none. -/
theorem deletion (h : log.Separable) : GivesSeparable (log.deletion config) := by
  refine (Source.separable_splitTarget (Source.separable_ofLog h)).bind fun s hs => ?_
  refine hs.1.item.bind fun item hitem => ?_
  refine (Source.separable_list hs.2).bind fun beside hbeside => .ok ?_
  have target := hitem.headed "delete from" (by decide)
  unfold Fragment.headedUnlessEmpty
  split_ifs
  · exact target.of_symbols (by simp)
  · exact (target.around " using " (by decide) hbeside).of_symbols (by simp)

/-- Every section of a separable log may stand between separators. -/
theorem text (h : log.Separable) (section' : Section) :
    GivesSeparable (section'.text config log) := by
  cases section' with
  | ctes => exact h.ctes
  | selection =>
    refine (Term.Separable.list (h.allOperands (by decide))).map fun columns hcolumns => ?_
    split_ifs
    · exact Fragment.separable_ofSql (by decide)
    · exact hcolumns.headed "select" (by decide)
  | sources =>
    exact (Source.separable_list (Source.separable_ofLog h)).map fun _ hf =>
      hf.headedUnlessEmpty "from" (by decide)
  | filter => exact h.keyedCondition (by decide) "where" (by decide)
  | grouping => exact h.keyedList (by decide) "group by" (by decide)
  | having => exact h.keyedCondition (by decide) "having" (by decide)
  | ordering => exact h.keyedList (by decide) "order by" (by decide)
  | limit => exact h.keyedLast (by decide) "limit" (by decide)
  | offset => exact h.keyedLast (by decide) "offset" (by decide)
  | insertion => exact h.insertion
  | assignment => exact h.assignment
  | otherSources => exact h.otherSources
  | deletion => exact h.deletion
  | returning => exact h.keyedList (by decide) "returning" (by decide)
  | manual =>
    have separable : ∀ t ∈ log.allOperands .manual, t.Separable := h.allOperands (by decide)
    have parts := Ensures.mapM_forall fun t ht => (separable t ht).body
    exact parts.map fun _ hfs => .join " " (by decide) hfs

/-- The statement of a separable log may stand between separators. -/
theorem statement (h : log.Separable) :
    Ensures (Log.statement config log) fun s => s.2.Separable := by
  apply Ensures.bind_any
  intro kind
  split_ifs
  · exact .error _
  · refine (Ensures.mapM_forall fun s _ => h.text s).bind fun texts htexts => .ok ?_
    exact .join " " (by decide) htexts

end Separable

end Log

end SqlBuilder
