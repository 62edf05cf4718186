import Mathlib.Tactic.SplitIfs
import SqlBuilder.Compile
import SqlBuilder.Proofs.Ident
import SqlBuilder.Proofs.Forms
import SqlBuilder.Proofs.Traversal.Term

/-!
# The parameters of sections

Each section of a statement has the values that its clauses contribute, in the order of the log.
The rows of an `insert` are followed through the fold that reads positional rows and through the
columns of rows given as mappings. The main statement is `Log.Contributes.statement`.
-/

namespace SqlBuilder

variable {config : Config}

/-- The same call, whose operands contribute. -/
def Call.Contributes (call : Call Term) (d : Call Contribution) : Prop :=
  call.clause = d.clause ∧ List.Forall₂ Term.Contributes call.operands d.operands

/-- The same calls, whose operands contribute. -/
def Log.Contributes (log : Log Term) (contributions : Log Contribution) : Prop :=
  List.Forall₂ Call.Contributes log contributions

theorem mapIdx_eq_map {α β : Type} (f : α → β) (xs : List α) :
    (xs.mapIdx fun _ x => f x) = xs.map f :=
  List.mapIdx_eq_iff.2 fun _ => List.getElem?_map

/-- The values of operands that all stand in the same place. -/
theorem Log.callValues_uniform {clause : Clause} (place : Place)
    (uniform : ∀ i, clause.place i = place) (cs : List Contribution) :
    Log.callValues clause cs = cs.flatMap fun c => c.values place := by
  simp only [Log.callValues, uniform]
  rw [mapIdx_eq_map fun c : Contribution => c.values place, List.flatMap_def]

/-- The values of a join: those of its target, then those of its conditions. -/
theorem Log.callValues_join (kind : Join) (target : Contribution)
    (conditions : List Contribution) :
    Log.callValues (.join kind) (target :: conditions) =
      target.values .item ++ conditions.flatMap fun c => c.values .mapping := by
  rw [Log.callValues, List.mapIdx_cons, List.flatten_cons, List.flatMap_def,
    ← mapIdx_eq_map fun c : Contribution => c.values .mapping]
  rfl

/-! ### Sources -/

/-- A source and the values of its operands. -/
inductive Source.Contributes : Source → List Value → Prop
  | table {t : Term} {c : Contribution} (h : t.Contributes c) :
      Contributes (.table t) (c.values .item)
  | join (kind : Join) {ts : List Term} {cs : List Contribution}
      (h : List.Forall₂ Term.Contributes ts cs) :
      Contributes (.join kind ts) (Log.callValues (.join kind) cs)

namespace Source.Contributes

variable {sources : List Source} {vss : List (List Value)}

theorem ofLog {log : Log Term} {contributions : Log Contribution}
    (h : log.Contributes contributions) :
    List.Forall₂ Contributes (ofLog log) contributions.sourceValues := by
  refine List.rel_flatMap h fun call d hd => ?_
  obtain ⟨clause, ts⟩ := call
  obtain ⟨clause', cs⟩ := d
  obtain ⟨rfl, operands⟩ := hd
  cases clause with
  | table => exact List.rel_map (fun _ _ => .table) operands
  | join kind => exact .cons (.join kind operands) .nil
  | _ => exact .nil

theorem joinCondition (kind : Join) (c : Option Condition) :
    GivesArgs (joinCondition kind c) (Condition.optionArgs c) := by
  cases c with
  | none =>
    unfold Source.joinCondition
    split_ifs
    · exact .ok rfl
    · exact .error _
  | some c =>
    unfold Source.joinCondition
    split_ifs
    · exact .error _
    · exact .ok (by simp [Condition.optionArgs])

/-- The target of a join comes before its condition. -/
theorem joinText (kind : Join) {ts : List Term} {cs : List Contribution}
    (h : List.Forall₂ Term.Contributes ts cs) :
    GivesArgs (joinText config kind ts) (Log.callValues (.join kind) cs) := by
  cases h with
  | nil => exact .error _
  | @cons _ target _ conditions head tail =>
    refine head.item.bind fun item hitem => ?_
    refine (Term.Contributes.anyOf config tail).bind fun c hc => ?_
    refine (joinCondition kind c).bind fun on hon => .ok ?_
    rw [Fragment.args_append, Fragment.args_append, Fragment.args_ofSql, hitem, hon, hc,
      Log.callValues_join]
    rfl

theorem extend {s : Source} {vs : List Value} (h : s.Contributes vs) (before : List Fragment) :
    Ensures (extend config before s) fun texts =>
      texts.reverse.flatMap Fragment.args = before.reverse.flatMap Fragment.args ++ vs := by
  cases h with
  | table h =>
    refine h.item.map fun item hitem => ?_
    split_ifs with behind empty
    · simp [hitem]
    · have none : before = [] := by simpa using behind
      rw [← hitem, none, Fragment.args_eq_nil_of_isEmpty empty]
      rfl
    · have none : before = [] := by simpa using behind
      simp [none, hitem]
  | join kind h =>
    unfold Source.extend
    simp only
    split_ifs
    · exact .error _
    · exact (joinText kind h).map fun text htext => by simp [htext]

/-- The sources in order. -/
theorem list (h : List.Forall₂ Contributes sources vss) :
    GivesArgs (list config sources) vss.flatten := by
  have fold (before : List Fragment) : Ensures (sources.foldlM (Source.extend config) before)
      fun texts => texts.reverse.flatMap Fragment.args =
        before.reverse.flatMap Fragment.args ++ vss.flatten := by
    induction h generalizing before with
    | nil => exact .ok (by simp)
    | cons head _ ih =>
      simp only [List.foldlM_cons]
      refine (extend head before).bind fun texts htexts => ?_
      refine (ih texts).mono fun all hall => ?_
      rw [hall, htexts, List.flatten_cons, List.append_assoc]
  refine (fold []).map fun texts htexts => ?_
  rw [Fragment.args_concat, htexts]
  rfl

/-- The target and the sources beside it. -/
theorem splitTarget (h : List.Forall₂ Contributes sources vss) :
    Ensures (splitTarget sources) fun s => GivesArgs s.1.item (vss.head?.getD []) ∧
      List.Forall₂ Contributes s.2 vss.tail := by
  cases h with
  | nil => exact .error _
  | cons head tail =>
    cases head with
    | table target => exact .ok ⟨target.item, tail⟩
    | join => exact .error _

end Source.Contributes

/-! ### Rows to insert -/

namespace Insertion

theorem isSome_entries? {t : Term} {c : Contribution} (h : t.Contributes c) :
    c.entries?.isSome = t.isRecord := by
  cases h <;> rfl

theorem all_isSome_entries? {ts : List Term} {cs : List Contribution}
    (h : List.Forall₂ Term.Contributes ts cs) :
    (cs.all fun c => c.entries?.isSome) = ts.all Term.isRecord := by
  induction h with
  | nil => rfl
  | cons head _ ih => rw [List.all_cons, List.all_cons, ih, isSome_entries? head]

/-- A row with mapped keys, whose operands have the values of the entries. -/
def RowContributes (config : Config) (row : Row) (entries : List (String × List Value)) : Prop :=
  List.Forall₂ (fun e v => e.1 = config.inputKey v.1 ∧ GivesArgs e.2.operand v.2) row entries

/-- The rows of mappings; checking a key leaves the column that it is mapped to. -/
theorem contributes_rowsOf {ts : List Term} {cs : List Contribution}
    (h : List.Forall₂ Term.Contributes ts cs) (records : ts.all Term.isRecord) :
    Ensures (rowsOf config ts) fun rows =>
      List.Forall₂ (RowContributes config) rows (cs.filterMap Contribution.entries?) := by
  have entries : List.Forall₂ (fun (r : Record Term) (vs : List (String × List Value)) =>
      List.Forall₂ (fun e v => e.1 = v.1 ∧ GivesArgs e.2.operand v.2) r.entries vs)
      (ts.filterMap Term.entries?) (cs.filterMap Contribution.entries?) := by
    induction h with
    | nil => exact .nil
    | cons head _ ih =>
      simp only [List.all_cons, Bool.and_eq_true] at records
      cases head with
      | record keys h =>
        refine .cons ?_ (ih records.2)
        rw [List.forall₂_map_right_iff]
        exact (forall₂_entries keys h).imp fun e c hc => ⟨hc.1, hc.2.operand⟩
      | value | default | raw | template | query | statement | predicate =>
        exact absurd records.1 (by simp [Term.isRecord])
  refine Ensures.mapM entries fun r vs hvs => Ensures.mapM hvs fun e v hv => ?_
  have column : Ensures (config.column e.1) fun name => name = config.inputKey v.1 :=
    fun name hname => hv.1 ▸ Ident.checked_eq hname
  exact column.map fun name hname => ⟨hname, hv.2⟩

theorem columnsOf_eq_mapped {rows : List Row} {vss : List (List (String × List Value))}
    (h : List.Forall₂ (RowContributes config) rows vss) :
    columnsOf rows = (vss.flatMap fun row => row.map fun e => config.inputKey e.1).eraseDups := by
  rw [columnsOf]
  congr 1
  refine flatMap_eq_of_forall₂ (h.imp fun row vs hrow => ?_)
  exact map_eq_iff_forall₂.2 (hrow.imp fun _ _ => And.left)

/-- What a row holds in a column is the last entry for it. -/
theorem contributes_cell {row : Row} {vs : List (String × List Value)}
    (h : RowContributes config row vs) (column : String) :
    GivesArgs (cell row column)
      (((vs.reverse.find? fun e => config.inputKey e.1 = column).map Prod.snd).getD []) := by
  have reversed := List.rel_reverse h
  unfold cell
  generalize row.reverse = back, vs.reverse = back' at reversed
  induction reversed with
  | nil => exact .ok (Fragment.args_ofSql _)
  | @cons e v _ _ head _ ih =>
    by_cases same : config.inputKey v.1 = column
    · simpa [head.1, same] using head.2
    · simpa [head.1, same] using ih

theorem args_tuple (fs : List Fragment) : (tuple fs).args = fs.flatMap Fragment.args := by
  simp [tuple]

theorem contributes_ofRows {rows : List Row} {vss : List (List (String × List Value))}
    (h : List.Forall₂ (RowContributes config) rows vss) :
    GivesArgs (ofRows rows) (Log.recordRowValues config.inputKey vss) := by
  unfold ofRows Log.recordRowValues
  rw [columnsOf_eq_mapped h]
  generalize (vss.flatMap fun row => row.map fun e => config.inputKey e.1).eraseDups = columns
  simp only
  split_ifs with none noColumns single
  · exact .error _
  · have : columns = [] := by simpa using noColumns
    exact .ok (by simp [this])
  · exact .error _
  · have row (r : Row) (vs : List (String × List Value)) (hrow : RowContributes config r vs) :
        GivesArgs ((columns.mapM (cell r)).map tuple) (columns.flatMap fun name =>
          ((vs.reverse.find? fun e => config.inputKey e.1 = name).map Prod.snd).getD []) := by
      refine (Ensures.mapM_same fun name => contributes_cell hrow name).map fun fs hfs => ?_
      rw [args_tuple, flatMap_eq_of_forall₂ hfs]
    refine (Ensures.mapM h row).bind fun tuples htuples => .ok ?_
    rw [Fragment.args_append, Fragment.args_ofSql, Fragment.args_join,
      flatMap_eq_of_forall₂ htuples]
    rfl

namespace Positional

/-- The parameters of the declared columns. -/
def headerArgs (p : Positional) : List Value := (p.header.map fun h => h.1.args).getD []

/-- The parameters of the rows read so far. -/
def rowArgs (p : Positional) : List Value := p.tuples.reverse.flatMap Fragment.args

theorem contributes_declare (p : Positional) {ts : List Term} {cs : List Contribution}
    (h : List.Forall₂ Term.Contributes ts cs) :
    Ensures (p.declare ts) fun p' =>
      p'.headerArgs = Log.callValues .columns cs ∧ p'.rowArgs = p.rowArgs := by
  refine (Term.Contributes.list h).bind fun names hnames => ?_
  have declared : ({ p with header := some (names, ts.length) } : Positional).headerArgs =
      Log.callValues .columns cs := by
    rw [Log.callValues_uniform .item fun _ => rfl, ← hnames]
    rfl
  split
  · split_ifs
    · exact .error _
    · exact .ok ⟨declared, rfl⟩
  · exact .ok ⟨declared, rfl⟩

theorem contributes_addRow (p : Positional) {ts : List Term} {cs : List Contribution}
    (h : List.Forall₂ Term.Contributes ts cs) :
    Ensures (p.addRow ts) fun p' => p'.headerArgs = p.headerArgs ∧
      p'.rowArgs = p.rowArgs ++ cs.flatMap fun c => c.values .operand := by
  unfold addRow
  split
  · exact .error _
  · split_ifs
    · exact .error _
    · refine (Ensures.mapM h fun _ _ => Term.Contributes.operand).map fun fs hfs => ⟨rfl, ?_⟩
      simp [rowArgs, args_tuple, flatMap_eq_of_forall₂ hfs]

/-- After all calls the last declaration stands, and the rows are in the order of the log. -/
theorem contributes_foldlM {log : Log Term} {contributions : Log Contribution}
    (h : log.Contributes contributions) (p : Positional) :
    Ensures (log.foldlM step p) fun p' =>
      p'.headerArgs = ((contributions.operandsOf .columns).getLast?.map
        (Log.callValues .columns)).getD p.headerArgs ∧
      p'.rowArgs = p.rowArgs ++ (contributions.allOperands .rows).flatMap
        fun c => c.values .operand := by
  unfold Log.Contributes at h
  -- The state changes with the calls, so the induction is for every state to start with: a
  -- declaration takes the place of the one before, rows are added, other calls are passed over.
  induction h generalizing p with
  | nil => exact .ok ⟨rfl, by simp [Log.allOperands, Log.operandsOf]⟩
  | @cons call d calls ds hcall _ ih =>
    obtain ⟨clause, ts⟩ := call
    obtain ⟨clause', cs⟩ := d
    obtain ⟨rfl, operands⟩ := hcall
    simp only at operands
    simp only [List.foldlM_cons]
    by_cases columns : clause = .columns
    · subst columns
      refine (contributes_declare p operands).bind fun p₁ h₁ => ?_
      refine (ih p₁).mono fun p' h' => ⟨?_, ?_⟩
      · rw [h'.1, h₁.1]
        simp only [Log.operandsOf, List.filter_cons, decide_true, if_true, List.map_cons,
          List.getLast?_cons, Option.map_some, Option.getD_some]
        generalize (List.map Call.operands
          (List.filter (fun call : Call Contribution => call.clause = .columns) ds)).getLast? = last
        cases last <;> rfl
      · rw [h'.2, h₁.2]
        simp [Log.allOperands, Log.operandsOf]
    · by_cases rows : clause = .rows
      · subst rows
        refine (contributes_addRow p operands).bind fun p₁ h₁ => ?_
        refine (ih p₁).mono fun p' h' => ⟨?_, ?_⟩
        · rw [h'.1, h₁.1]
          simp [Log.operandsOf]
        · rw [h'.2, h₁.2]
          simp [Log.allOperands, Log.operandsOf]
      · have skipped : step p ⟨clause, ts⟩ = .ok p := by
          unfold step
          cases clause <;> first | rfl | contradiction
        rw [skipped]
        refine (ih p).mono fun p' h' => ?_
        simpa [Log.allOperands, Log.operandsOf, columns, rows] using h'

theorem args_text (p : Positional) : GivesArgs p.text (p.headerArgs ++ p.rowArgs) := by
  unfold text
  split
  · exact .error _
  · rename_i names width header
    split_ifs
    · exact .error _
    · exact .ok (by simp [headerArgs, rowArgs, header])

end Positional

/-- The declared columns and the rows of an `insert`. -/
theorem contributes_list {log : Log Term} {contributions : Log Contribution}
    (h : log.Contributes contributions)
    (rows : List.Forall₂ Term.Contributes (log.allOperands .rows)
      (contributions.allOperands .rows))
    (columns : log.uses (fun clause => clause = .columns) = false →
      contributions.operandsOf .columns = []) :
    GivesArgs (list config log)
      (contributions.lastCallValues .columns ++ contributions.rowValues config) := by
  have isSome := all_isSome_entries? rows
  unfold list
  cases hforms : (log.operandsOf .rows).mapM rowForm with
  | error e => exact .error e
  | ok forms =>
    simp only [bind, Except.bind]
    split_ifs with positional mixed
    · have rowValues : contributions.rowValues config =
          (contributions.allOperands .rows).flatMap fun c => c.values .operand := by
        simp only [Log.rowValues, isSome]
        split_ifs with records
        · have none : log.allOperands .rows = [] := by
            rw [Log.allOperands, eq_nil_of_forms hforms positional records]
            rfl
          rw [none] at rows
          rw [List.forall₂_nil_left_iff.1 rows]
          rfl
        · rfl
      rw [rowValues]
      refine (Positional.contributes_foldlM h ⟨none, []⟩).bind fun p hp => ?_
      refine (Positional.args_text p).mono fun f hf => ?_
      rw [hf, hp.1, hp.2]
      rfl
    · exact .error _
    · simp only [Bool.or_eq_true, not_or, Bool.not_eq_true] at mixed
      have records : (log.allOperands .rows).all Term.isRecord :=
        isRecord_of_forms hforms mixed.1
      rw [Log.lastCallValues, columns mixed.2, Log.rowValues, isSome, if_pos records]
      exact (contributes_rowsOf rows records).bind fun _ hrows => contributes_ofRows hrows

end Insertion

end SqlBuilder
