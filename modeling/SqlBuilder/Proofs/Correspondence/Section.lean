import Mathlib.Tactic.SplitIfs
import SqlBuilder.Compile
import SqlBuilder.Proofs.Correspondence.Term
import SqlBuilder.Proofs.Forms
import SqlBuilder.Proofs.Log

/-!
# Statements that correspond

Logs of terms correspond when they record the same calls with corresponding operands, each in the
place that its clause gives it. Every section of such logs agrees: it fails with the same error,
or gives fragments that correspond. The main statement is `Log.Corresponds.statement`.

The columns of an `insert` are the one position where parameters are compared, because a second
declaration has to repeat the first. There the parameters of both sides have to be the same.
-/

namespace SqlBuilder

/-- How the values in the operands of a call are related: those of declared columns are the
same. -/
def Clause.relation (R : Value → Value → Prop) : Clause → Value → Value → Prop
  | .columns => fun v w => v = w ∧ R v w
  | _ => R

variable {R : Value → Value → Prop}

/-- As many operands, each with its counterpart. -/
structure OperandsCorrespond (R : Value → Value → Prop) (clause : Clause) (ts us : List Term) :
    Prop where
  length_eq : ts.length = us.length
  operand : ∀ (i : Nat) (t u : Term), ts[i]? = some t → us[i]? = some u →
    t.Corresponds (clause.relation R) (clause.place i) u

/-- The same call with corresponding operands. -/
structure Call.Corresponds (R : Value → Value → Prop) (c c' : Call Term) : Prop where
  clause_eq : c.clause = c'.clause
  operands : OperandsCorrespond R c.clause c.operands c'.operands

/-- The same calls with corresponding operands. -/
def Log.Corresponds (R : Value → Value → Prop) (log log' : Log Term) : Prop :=
  List.Forall₂ (Call.Corresponds R) log log'

namespace OperandsCorrespond

variable {clause : Clause} {ts us : List Term}

/-- Operands that all stand in the same place. -/
theorem forall₂ (h : OperandsCorrespond R clause ts us) {place : Place}
    (uniform : ∀ i, clause.place i = place) :
    List.Forall₂ (Term.Corresponds (clause.relation R) place) ts us := by
  refine List.forall₂_iff_get.2 ⟨h.length_eq, fun i hi hi' => ?_⟩
  rw [← uniform i]
  exact h.operand i _ _ (List.getElem?_eq_getElem hi) (List.getElem?_eq_getElem hi')

/-- The first operand and the others. -/
theorem cons {kind : Join} {t u : Term}
    (h : OperandsCorrespond R (.join kind) (t :: ts) (u :: us)) :
    t.Corresponds R .item u ∧ List.Forall₂ (Term.Corresponds R .mapping) ts us := by
  refine ⟨h.operand 0 t u rfl rfl, List.forall₂_iff_get.2 ⟨?_, fun i hi hi' => ?_⟩⟩
  · simpa using h.length_eq
  · refine h.operand (i + 1) _ _ ?_ ?_
    · exact List.getElem?_eq_getElem (l := t :: ts) (by simpa using hi)
    · exact List.getElem?_eq_getElem (l := u :: us) (by simpa using hi')

end OperandsCorrespond

/-! ### Sources -/

/-- The same kind of source with corresponding operands. -/
inductive Source.Corresponds (R : Value → Value → Prop) : Source → Source → Prop
  | table {t u : Term} (h : t.Corresponds R .item u) : Corresponds R (.table t) (.table u)
  | join (kind : Join) {ts us : List Term} (h : OperandsCorrespond R (.join kind) ts us) :
      Corresponds R (.join kind ts) (.join kind us)

namespace Source.Corresponds

variable (config : Config)

/-- A call gives sources of the same kinds on both sides. -/
theorem ofCall {c c' : Call Term} (h : c.Corresponds R c') :
    List.Forall₂ (Corresponds R) (ofCall c) (Source.ofCall c') := by
  obtain ⟨clause, ts⟩ := c
  obtain ⟨clause', us⟩ := c'
  obtain ⟨rfl, h⟩ := h
  cases clause with
  | table =>
    refine List.rel_map ?_ (h.forall₂ fun _ => rfl)
    exact fun _ _ => .table
  | join kind => exact .cons (.join kind h) .nil
  | _ => exact .nil

theorem ofLog {log log' : Log Term} (h : log.Corresponds R log') :
    List.Forall₂ (Corresponds R) (ofLog log) (Source.ofLog log') :=
  List.rel_flatMap h fun _ _ => ofCall

/-- Whether a join has a condition is the same on both sides, and nothing else decides if it may
have one. -/
theorem joinCondition (kind : Join) {c d : Option Condition}
    (h : Option.Rel (Condition.Corresponds R) c d) :
    Agree (Fragment.Corresponds R) (joinCondition kind c) (Source.joinCondition kind d) := by
  cases h with
  | some h =>
    unfold Source.joinCondition
    split_ifs
    · exact .error _
    · exact .ok ((Fragment.corresponds_ofSql _).append h.render)
  | none =>
    unfold Source.joinCondition
    split_ifs
    · exact .ok Fragment.corresponds_empty
    · exact .error _

/-- The target of a join stands in the place of an item, the conditions behind it in that of
mappings. -/
theorem joinText (kind : Join) {ts us : List Term} (h : OperandsCorrespond R (.join kind) ts us) :
    Agree (Fragment.Corresponds R) (joinText config kind ts) (Source.joinText config kind us) := by
  cases ts with
  | nil =>
    cases us with
    | nil => exact .error _
    | cons u us => exact absurd h.length_eq (by simp)
  | cons t ts =>
    cases us with
    | nil => exact absurd h.length_eq (by simp)
    | cons u us =>
      obtain ⟨target, conditions⟩ := h.cons
      apply target.item.bind
      intro f g item
      refine (Condition.corresponds_anyOf config conditions).bind fun c d condition => ?_
      refine (joinCondition kind condition).bind fun f' g' on => .ok ?_
      exact ((Fragment.corresponds_ofSql _).append item).append on

/-- Commas and refused joins go by which texts are empty, and so they are the same on both sides. -/
theorem extend {s s' : Source} (h : s.Corresponds R s') {before before' : List Fragment}
    (texts : List.Forall₂ (Fragment.Corresponds R) before before') :
    Agree (List.Forall₂ (Fragment.Corresponds R)) (extend config before s)
      (Source.extend config before' s') := by
  have isEmpty_eq := isEmpty_eq_of_forall₂ texts
  cases h with
  | table h =>
    apply h.item.map
    intro f g hfg
    rw [isEmpty_eq, hfg.isEmpty_eq]
    split_ifs
    · exact .cons hfg (.cons (Fragment.corresponds_ofSql _) texts)
    · exact .nil
    · exact .cons hfg .nil
  | join kind h =>
    unfold Source.extend
    simp only [isEmpty_eq]
    split_ifs
    · exact .error _
    · exact (joinText config kind h).map fun _ _ hfg => .cons hfg texts

theorem list {sources sources' : List Source} (h : List.Forall₂ (Corresponds R) sources sources') :
    Agree (Fragment.Corresponds R) (list config sources) (Source.list config sources') := by
  have texts := Agree.foldlM h (fun _ _ _ _ hs before => extend config hs before) .nil
  exact texts.map fun fs gs hfg => .concat (List.rel_reverse hfg)

/-- The targets of a mutation, and the sources beside it. -/
theorem splitTarget {sources sources' : List Source}
    (h : List.Forall₂ (Corresponds R) sources sources') :
    Agree (fun s s' => s.1.Corresponds R .item s'.1 ∧ List.Forall₂ (Corresponds R) s.2 s'.2)
      (splitTarget sources) (Source.splitTarget sources') := by
  cases h with
  | nil => exact .error _
  | cons head tail =>
    cases head with
    | table target => exact .ok ⟨target, tail⟩
    | join => exact .error _

end Source.Corresponds

/-! ### Rows to insert -/

namespace Insertion

variable (config : Config)

/-- The form of a call of rows goes by which of its operands are mappings. -/
theorem rowForm_eq {ts us : List Term} (h : List.Forall₂ (Term.Corresponds R .operand) ts us) :
    rowForm ts = rowForm us := by
  have flags : ts.map Term.isRecord = us.map Term.isRecord :=
    map_eq_iff_forall₂.2 (h.imp fun _ _ => Term.Corresponds.isRecord_eq)
  have all : ts.all Term.isRecord = us.all Term.isRecord := by
    simpa [List.all_map, Function.comp_def] using congrArg (List.all · id) flags
  have any : ts.any Term.isRecord = us.any Term.isRecord := by
    simpa [List.any_map, Function.comp_def] using congrArg (List.any · id) flags
  rw [rowForm, all, any, rowForm]

/-- Rows whose columns are the same and whose terms correspond. -/
def RowCorresponds (R : Value → Value → Prop) : Row → Row → Prop :=
  List.Forall₂ (EntryCorresponds R .operand)

/-- Mappings turn into rows with the same columns in the same order. -/
theorem corresponds_rowsOf {ts us : List Term}
    (h : List.Forall₂ (Term.Corresponds R .operand) ts us) (records : ts.all Term.isRecord) :
    Agree (List.Forall₂ (RowCorresponds R)) (rowsOf config ts) (rowsOf config us) := by
  have entries : List.Forall₂
      (fun r s : Record Term => List.Forall₂ (EntryCorresponds R .operand) r.entries s.entries)
      (ts.filterMap Term.entries?) (us.filterMap Term.entries?) := by
    induction h with
    | nil => exact .nil
    | cons head _ ih =>
      simp only [List.all_cons, Bool.and_eq_true] at records
      cases head with
      | record keys h => exact .cons (forall₂_entries keys h) (ih records.2)
      | value | parameter | default | raw | template | query | statement | frozen | predicate =>
        exact absurd records.1 (by simp [Term.isRecord])
  refine Agree.mapM entries fun r s hrs => Agree.mapM hrs fun e e' he => ?_
  rw [he.1]
  exact Agree.map_same fun column => ⟨rfl, he.2⟩

/-- The columns of rows are collected from the keys alone. -/
theorem columnsOf_eq {rows rows' : List Row} (h : List.Forall₂ (RowCorresponds R) rows rows') :
    columnsOf rows = columnsOf rows' := by
  have row (r r' : Row) (hr : RowCorresponds R r r') : r.map Prod.fst = r'.map Prod.fst :=
    map_eq_iff_forall₂.2 (List.Forall₂.imp (fun _ _ => And.left) hr)
  have all : (rows.flatMap fun r => r.map Prod.fst) = rows'.flatMap fun r => r.map Prod.fst :=
    flatMap_eq_of_forall₂ (h.imp row)
  rw [columnsOf, all, columnsOf]

/-- The last entry for a column stands at the same place of both rows. -/
theorem corresponds_cell {row row' : Row} (h : RowCorresponds R row row') (column : String) :
    Agree (Fragment.Corresponds R) (cell row column) (cell row' column) := by
  have found : Option.Rel (EntryCorresponds R .operand)
      (row.reverse.find? fun e => e.1 = column) (row'.reverse.find? fun e => e.1 = column) := by
    have reversed := List.rel_reverse h
    generalize row.reverse = back, row'.reverse = back' at reversed
    induction reversed with
    | nil => exact .none
    | cons head _ ih =>
      simp only [List.find?_cons, head.1]
      split
      · exact .some head
      · exact ih
  unfold cell
  generalize (row.reverse.find? fun e => e.1 = column) = e,
    (row'.reverse.find? fun e => e.1 = column) = e' at found
  cases found with
  | some h => exact h.2.operand
  | none => exact .ok (Fragment.corresponds_ofSql _)

theorem corresponds_tuple {fs gs : List Fragment}
    (h : List.Forall₂ (Fragment.Corresponds R) fs gs) :
    (tuple fs).Corresponds R (tuple gs) :=
  (Fragment.Corresponds.join h ", ").parenthesized

/-- Rows are refused for their number and their columns, which are the same on both sides. -/
theorem corresponds_ofRows {rows rows' : List Row}
    (h : List.Forall₂ (RowCorresponds R) rows rows') :
    Agree (Fragment.Corresponds R) (ofRows rows) (ofRows rows') := by
  unfold ofRows
  simp only [isEmpty_eq_of_forall₂ h, columnsOf_eq h, h.length_eq]
  split_ifs
  · exact .error _
  · exact .ok (Fragment.corresponds_ofSql _)
  · exact .error _
  · have columns (row row' : Row) (hrow : RowCorresponds R row row') :
        Agree (Fragment.Corresponds R) (((columnsOf rows').mapM (cell row)).map tuple)
          (((columnsOf rows').mapM (cell row')).map tuple) :=
      (Agree.mapM_same (corresponds_cell hrow)).map fun fs gs hfg => corresponds_tuple hfg
    refine (Agree.mapM h columns).bind fun fs gs hfg => .ok ?_
    exact (Fragment.corresponds_ofSql _).append (.join hfg ", ")

/-- Positional rows read so far: the same declaration, and tuples that correspond. -/
structure Positional.Corresponds (R : Value → Value → Prop) (p p' : Positional) : Prop where
  header_eq : p.header = p'.header
  header : ∀ h ∈ p.header, h.1.Corresponds R h.1
  tuples : List.Forall₂ (Fragment.Corresponds R) p.tuples p'.tuples

namespace Positional.Corresponds

variable {p p' : Positional}

/-- A declaration is compared with the one before it, parameters included. This is where equal
parameters are needed. -/
theorem declare (h : p.Corresponds R p') {ts us : List Term}
    (columns : List.Forall₂ (Term.Corresponds (fun v w => v = w ∧ R v w) .item) ts us) :
    Agree (Corresponds R) (p.declare ts) (p'.declare us) := by
  refine (Term.Corresponds.list columns).bind fun names names' both => ?_
  obtain rfl : names = names' := (both.mono fun _ _ => And.left).eq
  have related : names.Corresponds R names := both.mono fun _ _ => And.right
  have declared : ({ p with header := some (names, ts.length) } : Positional).Corresponds R
      { p' with header := some (names, ts.length) } :=
    ⟨rfl, fun _ hh => by cases hh; exact related, h.tuples⟩
  rw [← h.header_eq, ← columns.length_eq]
  split
  · split
    · exact .error _
    · exact .ok declared
  · exact .ok declared

/-- A row is refused for its width alone. -/
theorem addRow (h : p.Corresponds R p') {ts us : List Term}
    (values : List.Forall₂ (Term.Corresponds R .operand) ts us) :
    Agree (Corresponds R) (p.addRow ts) (p'.addRow us) := by
  unfold Positional.addRow
  rw [← h.header_eq, ← values.length_eq]
  split
  · exact .error _
  · split
    · exact .error _
    · have operands := Agree.mapM values fun _ _ => Term.Corresponds.operand
      refine operands.map fun fs gs hfg => ⟨rfl, h.header, ?_⟩
      exact .cons (corresponds_tuple hfg) h.tuples

/-- One more call keeps what has been read in correspondence. -/
theorem step (h : p.Corresponds R p') {c c' : Call Term} (call : c.Corresponds R c') :
    Agree (Corresponds R) (p.step c) (p'.step c') := by
  obtain ⟨clause, ts⟩ := c
  obtain ⟨clause', us⟩ := c'
  obtain ⟨rfl, operands⟩ := call
  cases clause with
  | columns => exact h.declare (operands.forall₂ fun _ => rfl)
  | rows => exact h.addRow (operands.forall₂ fun _ => rfl)
  | _ => exact .ok h

theorem text (h : p.Corresponds R p') : Agree (Fragment.Corresponds R) p.text p'.text := by
  unfold Positional.text
  rw [← h.header_eq, ← isEmpty_eq_of_forall₂ h.tuples]
  split
  · exact .error _
  · rename_i names width header
    split
    · exact .error _
    · have names := (h.header _ header).parenthesized.append (Fragment.corresponds_ofSql " values ")
      exact .ok (names.append (.join (List.rel_reverse h.tuples) ", "))

end Positional.Corresponds

end Insertion

/-! ### Sections -/

namespace Log.Corresponds

variable {log log' : Log Term} (config : Config)

/-- The logs record calls of the same clauses in the same order. -/
theorem clauses_eq (h : log.Corresponds R log') :
    log.map Call.clause = log'.map Call.clause :=
  map_eq_iff_forall₂.2 (List.Forall₂.imp (fun _ _ call => call.clause_eq) h)

/-- The calls of one clause have their counterparts in the other log. -/
theorem operandsOf (h : log.Corresponds R log') (clause : Clause) :
    List.Forall₂ (OperandsCorrespond R clause) (log.operandsOf clause)
      (log'.operandsOf clause) := by
  unfold Log.operandsOf
  unfold Log.Corresponds at h
  induction h with
  | nil => exact .nil
  | @cons c c' _ _ head _ ih =>
    simp only [List.filter_cons, ← head.clause_eq]
    split
    · rename_i same
      simp only [decide_eq_true_eq] at same
      exact .cons (same ▸ head.operands) ih
    · exact ih

/-- The operands of all calls of a clause whose operands stand in the same place. -/
theorem allOperands (h : log.Corresponds R log') (clause : Clause) (place : Place)
    (uniform : ∀ i, clause.place i = place) :
    List.Forall₂ (Term.Corresponds (clause.relation R) place) (log.allOperands clause)
      (log'.allOperands clause) :=
  List.rel_flatten ((h.operandsOf clause).imp fun _ _ hts => hts.forall₂ uniform)

theorem keyedList (h : log.Corresponds R log') {clause : Clause} (relation : clause.relation R = R)
    (uniform : ∀ i, clause.place i = .item) (keyword : String) :
    Agree (Fragment.Corresponds R) (log.keyedList clause keyword)
      (log'.keyedList clause keyword) := by
  have operands := h.allOperands clause .item uniform
  rw [relation] at operands
  exact (Term.Corresponds.list operands).map fun _ _ hfg => hfg.headedUnlessEmpty keyword

/-- Calls without a condition drop out of both logs, and the others are joined. -/
theorem keyedCondition (h : log.Corresponds R log') {clause : Clause}
    (relation : clause.relation R = R) (uniform : ∀ i, clause.place i = .mapping)
    (keyword : String) :
    Agree (Fragment.Corresponds R) (log.keyedCondition config clause keyword)
      (log'.keyedCondition config clause keyword) := by
  have conditions := Agree.mapM (h.operandsOf clause) fun ts us hts =>
    Condition.corresponds_anyOf config (relation ▸ hts.forall₂ uniform)
  apply conditions.bind
  intro cs ds hcd
  have conjunction := Condition.Corresponds.conjoin (Condition.corresponds_filterMap hcd)
  generalize Condition.conjoin (cs.filterMap id) = c, Condition.conjoin (ds.filterMap id) = d
    at conjunction
  cases conjunction with
  | some h => exact .ok (h.render.headed keyword)
  | none => exact .ok Fragment.corresponds_empty

/-- The call that counts is the last one in both logs. -/
theorem keyedLast (h : log.Corresponds R log') {clause : Clause} (relation : clause.relation R = R)
    (uniform : ∀ i, clause.place i = .operand) (keyword : String) :
    Agree (Fragment.Corresponds R) (log.keyedLast clause keyword)
      (log'.keyedLast clause keyword) := by
  have last : Option.Rel (Term.Corresponds R .operand)
      ((log.operandsOf clause).getLast?.bind List.head?)
      ((log'.operandsOf clause).getLast?.bind List.head?) := by
    refine rel_getLast?_head? ((h.operandsOf clause).imp fun ts us operands => ?_)
    rw [← relation]
    exact operands.forall₂ uniform
  unfold Log.keyedLast
  generalize (log.operandsOf clause).getLast?.bind List.head? = t,
    (log'.operandsOf clause).getLast?.bind List.head? = u at last
  cases last with
  | some h => exact h.operand.map fun _ _ hfg => hfg.headed keyword
  | none => exact .ok Fragment.corresponds_empty

theorem cteItem {e e' : String × Term} (h : EntryCorresponds R .operand e e') :
    Agree (Fragment.Corresponds R) (Log.cteItem e) (Log.cteItem e') := by
  unfold Log.cteItem
  rw [h.1]
  apply Agree.bind_same
  intro name
  exact h.2.body.bind fun f g hfg =>
    .ok ((Fragment.corresponds_ofSql _).append hfg.parenthesized)

/-- An alias is text, which is the same on both sides; anything else in its place is refused. -/
theorem cteItems_pair {t u t' u' : Term} (name : t.Corresponds R .mapping u)
    (body : t'.Corresponds R .operand u') :
    Agree (List.Forall₂ (Fragment.Corresponds R)) (Log.cteItems [t, t'])
      (Log.cteItems [u, u']) := by
  cases name with
  | raw sql =>
    have item : Agree (Fragment.Corresponds R) (Log.cteItem (sql, t')) (Log.cteItem (sql, u')) :=
      cteItem ⟨rfl, body⟩
    exact item.map fun _ _ hfg => .cons hfg .nil
  | value | parameter | default | template | query | statement | frozen | record | predicate =>
    exact .error _

theorem cteItems {ts us : List Term} (h : OperandsCorrespond R .cte ts us) :
    Agree (List.Forall₂ (Fragment.Corresponds R)) (Log.cteItems ts) (Log.cteItems us) := by
  match ts, us, h with
  | [], [], _ => exact .error _
  | [t], [u], h =>
    have first : t.Corresponds R .mapping u := h.operand 0 t u rfl rfl
    rcases first.entries? (.inl rfl) with ⟨r, s, hr, hs, entries⟩ | ⟨hr, hs, -⟩
    · rw [cteItems_of_entries hr, cteItems_of_entries hs]
      exact Agree.mapM entries fun _ _ => cteItem
    · rw [cteItems_of_none hr, cteItems_of_none hs]
      exact .error _
  | [t, t'], [u, u'], h => exact cteItems_pair (h.operand 0 t u rfl rfl) (h.operand 1 t' u' rfl rfl)
  | _ :: _ :: _ :: _, _ :: _ :: _ :: _, h =>
    rw [cteItems_long, cteItems_long]
    exact .error _
  | [], _ :: _, h | _ :: _, [], h | [_], _ :: _ :: _, h | _ :: _ :: _, [_], h
  | [_, _], _ :: _ :: _ :: _, h | _ :: _ :: _ :: _, [_, _], h =>
    exact absurd h.length_eq (by simp)

theorem ctes (h : log.Corresponds R log') :
    Agree (Fragment.Corresponds R) log.ctes log'.ctes := by
  have calls := h.operandsOf .cte
  unfold Log.ctes
  generalize log.operandsOf .cte = tss, log'.operandsOf .cte = uss at calls
  cases calls with
  | nil => exact .ok Fragment.corresponds_empty
  | cons head tail =>
    have groups := Agree.mapM (.cons head tail) fun _ _ => cteItems
    apply groups.map
    intro fss gss related
    exact .headed "with" (.join (List.rel_flatten related) ", ")

/-- The calls are read one after the other, from the state in which none has been read. -/
theorem ofPositional (h : log.Corresponds R log') :
    Agree (Fragment.Corresponds R) (Insertion.ofPositional log)
      (Insertion.ofPositional log') := by
  have start : (⟨none, []⟩ : Insertion.Positional).Corresponds R ⟨none, []⟩ :=
    ⟨rfl, fun _ hh => absurd hh (by simp), .nil⟩
  have rows := Agree.foldlM h (fun _ _ _ _ call p => p.step call) start
  exact rows.bind fun p p' hp => hp.text

/-- The forms of the calls are the same, so both logs are read as mappings or both by position. -/
theorem insertionList (h : log.Corresponds R log') :
    Agree (Fragment.Corresponds R) (Insertion.list config log)
      (Insertion.list config log') := by
  have forms_eq : (log.operandsOf .rows).mapM Insertion.rowForm =
      (log'.operandsOf .rows).mapM Insertion.rowForm := by
    have forms : Agree (List.Forall₂ Eq) ((log.operandsOf .rows).mapM Insertion.rowForm)
        ((log'.operandsOf .rows).mapM Insertion.rowForm) :=
      Agree.mapM (h.operandsOf .rows) fun ts us hts =>
        Insertion.rowForm_eq (hts.forall₂ fun _ => rfl) ▸ Agree.refl (fun _ => rfl) _
    rw [List.forall₂_eq_eq_eq] at forms
    exact forms.eq
  unfold Insertion.list
  rw [uses_eq, uses_eq, h.clauses_eq, ← forms_eq]
  cases hforms : (log.operandsOf .rows).mapM Insertion.rowForm with
  | error e => exact .error e
  | ok forms =>
    simp only [bind, Except.bind]
    split_ifs with all mixed
    · exact h.ofPositional
    · exact .error _
    · have records : (log.allOperands .rows).all Term.isRecord := by
        refine Insertion.isRecord_of_forms hforms ?_
        simp only [Bool.or_eq_true, not_or, Bool.not_eq_true] at mixed
        exact mixed.1
      have rows := Insertion.corresponds_rowsOf config
        (h.allOperands .rows .operand fun _ => rfl) records
      exact rows.bind fun _ _ hrows => Insertion.corresponds_ofRows hrows

theorem insertion (h : log.Corresponds R log') :
    Agree (Fragment.Corresponds R) (log.insertion config) (log'.insertion config) := by
  unfold Log.insertion
  refine (Source.Corresponds.splitTarget (Source.Corresponds.ofLog h)).bind fun s s' hs => ?_
  simp only [isEmpty_eq_of_forall₂ hs.2]
  split_ifs
  · exact .error _
  · refine hs.1.item.bind fun f g item => ?_
    refine (h.insertionList config).bind fun f' g' rows => .ok ?_
    exact ((item.headed _).push " ").append rows

/-- Assignments are refused if nothing comes of them, which is the same on both sides. -/
theorem assignmentList (h : log.Corresponds R log') :
    Agree (Fragment.Corresponds R) (Assignment.list config log)
      (Assignment.list config log') := by
  have ofTerm (t u : Term) (htu : t.Corresponds R .mapping u) :
      Agree (List.Forall₂ (Fragment.Corresponds R)) (Assignment.ofTerm config t)
        (Assignment.ofTerm config u) := by
    unfold Assignment.ofTerm
    rcases htu.entries? (.inl rfl) with ⟨r, s, hr, hs, entries⟩ | ⟨hr, hs, single⟩
    · rw [hr, hs]
      exact Agree.mapM entries fun _ _ => corresponds_equation config
    · rw [hr, hs]
      exact single.body.map fun _ _ hfg => .cons hfg .nil
  unfold Assignment.list
  have groups := Agree.mapM (h.allOperands .assignment .mapping fun _ => rfl) ofTerm
  apply groups.bind
  intro fss gss related
  have joined := Fragment.Corresponds.join (List.rel_flatten related) ", "
  simp only [joined.isEmpty_eq]
  split_ifs
  · exact .error _
  · exact .ok joined

theorem assignment (h : log.Corresponds R log') :
    Agree (Fragment.Corresponds R) (log.assignment config) (log'.assignment config) := by
  unfold Log.assignment
  refine (Source.Corresponds.splitTarget (Source.Corresponds.ofLog h)).bind fun s s' hs => ?_
  refine (h.assignmentList config).bind fun f g assignments => ?_
  refine hs.1.item.bind fun f' g' item => .ok ?_
  exact ((item.headed _).push " ").append (assignments.headed _)

theorem otherSources (h : log.Corresponds R log') :
    Agree (Fragment.Corresponds R) (log.otherSources config) (log'.otherSources config) := by
  unfold Log.otherSources
  refine (Source.Corresponds.splitTarget (Source.Corresponds.ofLog h)).bind fun s s' hs => ?_
  refine (Source.Corresponds.list config hs.2).bind fun f g sources => .ok ?_
  exact sources.headedUnlessEmpty _

theorem deletion (h : log.Corresponds R log') :
    Agree (Fragment.Corresponds R) (log.deletion config) (log'.deletion config) := by
  unfold Log.deletion
  refine (Source.Corresponds.splitTarget (Source.Corresponds.ofLog h)).bind fun s s' hs => ?_
  refine hs.1.item.bind fun f g item => ?_
  refine (Source.Corresponds.list config hs.2).bind fun f' g' sources => .ok ?_
  exact (item.headed _).append (sources.headedUnlessEmpty _)

theorem text (h : log.Corresponds R log') (section' : Section) :
    Agree (Fragment.Corresponds R) (section'.text config log) (section'.text config log') := by
  cases section' with
  | ctes => exact h.ctes
  | selection =>
    have columns := Term.Corresponds.list (h.allOperands .output .item fun _ => rfl)
    apply columns.map
    intro f g hfg
    rw [hfg.isEmpty_eq]
    split_ifs
    · exact Fragment.corresponds_ofSql _
    · exact hfg.headed _
  | sources =>
    have sources := Source.Corresponds.list config (Source.Corresponds.ofLog h)
    exact sources.map fun f g hfg => hfg.headedUnlessEmpty _
  | filter => exact h.keyedCondition config rfl (fun _ => rfl) _
  | grouping => exact h.keyedList rfl (fun _ => rfl) _
  | having => exact h.keyedCondition config rfl (fun _ => rfl) _
  | ordering => exact h.keyedList rfl (fun _ => rfl) _
  | limit => exact h.keyedLast rfl (fun _ => rfl) _
  | offset => exact h.keyedLast rfl (fun _ => rfl) _
  | insertion => exact h.insertion config
  | assignment => exact h.assignment config
  | otherSources => exact h.otherSources config
  | deletion => exact h.deletion config
  | returning => exact h.keyedList rfl (fun _ => rfl) _
  | manual =>
    have operands := h.allOperands .manual .operand fun _ => rfl
    have parts := Agree.mapM operands fun _ _ => Term.Corresponds.body
    exact parts.map fun fs gs hfg => .join hfg " "

/-- Both logs have a target, or neither has one. -/
theorem target?_isNone (h : log.Corresponds R log') :
    log.target?.isNone = log'.target?.isNone := by
  have calls := h.operandsOf .table
  unfold Log.target?
  generalize log.operandsOf .table = tss, log'.operandsOf .table = uss at calls
  cases calls with
  | nil => rfl
  | cons head _ =>
    have operands : List.Forall₂ (Term.Corresponds R .item) _ _ := head.forall₂ fun _ => rfl
    cases operands <;> rfl

/-- Logs that correspond make up statements of the same kind that correspond, or fail alike. -/
theorem statement (h : log.Corresponds R log') :
    Agree (fun s s' => s.1 = s'.1 ∧ s.2.Corresponds R s'.2) (Log.statement config log)
      (Log.statement config log') := by
  unfold Log.statement
  rw [statementKind_eq h.clauses_eq]
  apply Agree.bind_same
  intro kind
  rw [h.target?_isNone]
  split_ifs
  · exact .error _
  · have sections : Agree (List.Forall₂ (Fragment.Corresponds R))
        (kind.sections.mapM (Section.text config log))
        (kind.sections.mapM (Section.text config log')) :=
      Agree.mapM_same (h.text config)
    exact sections.bind fun fs gs hfg => .ok ⟨rfl, .join hfg " "⟩

end Log.Corresponds

end SqlBuilder
