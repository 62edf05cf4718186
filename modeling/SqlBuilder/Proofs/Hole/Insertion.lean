import SqlBuilder.Proofs.Hole.Context
import SqlBuilder.Proofs.Hole.Term
import SqlBuilder.Proofs.Insertion.Records

/-!
# Rows to insert with one parameter for another

A parameter may stand in a positional row, among the declared columns, or in an entry of a mapping.
The loop over positional rows keeps the change where it is (`Positional.TupleSwaps` and
`Positional.HeaderSwaps`). An entry of a mapping is written in one cell of the table, as long as no
later entry of the row names the same column (`RowSwaps`).
-/

namespace SqlBuilder.Insertion

variable {v w : Value}

theorem swaps_tuple {fs gs : List Fragment} (h : OneChange (Fragment.Swaps v w) fs gs) :
    (tuple fs).Swaps v w (tuple gs) :=
  (Fragment.Swaps.join h ", ").parenthesized

/-! ### Positional rows -/

namespace Positional

/-- The same declaration, and tuples with one parameter for another. -/
structure TupleSwaps (v w : Value) (p p' : Positional) : Prop where
  header_eq : p.header = p'.header
  tuples : OneChange (Fragment.Swaps v w) p.tuples p'.tuples

/-- A declaration with one parameter for another, and the same tuples. -/
structure HeaderSwaps (v w : Value) (p p' : Positional) : Prop where
  header : ∃ names names' width,
    p.header = some (names, width) ∧ p'.header = some (names', width) ∧ names.Swaps v w names'
  tuples_eq : p.tuples = p'.tuples

variable {p p' : Positional}

theorem swaps_addRow (p : Positional) {ts us : List Term}
    (h : OneChange (Term.Swaps v w .operand) ts us) :
    Follows (TupleSwaps v w) (p.addRow ts) (p.addRow us) := by
  unfold addRow
  rw [h.length_eq]
  split
  · exact .error _
  · split_ifs
    · exact .error _
    · have values := AgreeUnless.mapM_change h fun _ _ => Term.Swaps.operand
      exact values.map fun _ _ changed => ⟨rfl, .head _ (swaps_tuple changed)⟩

/-- An earlier declaration cannot agree with both, but then one of them is refused. -/
theorem swaps_declare (p : Positional) {ts us : List Term}
    (h : OneChange (Term.Swaps v w .item) ts us) :
    Follows (HeaderSwaps v w) (p.declare ts) (p.declare us) := by
  refine (Term.Swaps.list h).bind fun names names' swap => ?_
  rw [h.length_eq]
  have declared : HeaderSwaps v w { p with header := some (names, us.length) }
      { p with header := some (names', us.length) } :=
    ⟨⟨names, names', us.length, rfl, rfl, swap⟩, rfl⟩
  split
  · split_ifs
    · exact .left _
    · exact .left _
    · exact .right _
    · exact .ok declared
  · exact .ok declared

theorem TupleSwaps.declare (h : p.TupleSwaps v w p') (columns : List Term) :
    Follows (TupleSwaps v w) (p.declare columns) (p'.declare columns) := by
  refine AgreeUnless.bind_same fun names => ?_
  rw [h.header_eq]
  split
  · split_ifs
    · exact .error _
    · exact .ok ⟨rfl, h.tuples⟩
  · exact .ok ⟨rfl, h.tuples⟩

theorem TupleSwaps.addRow (h : p.TupleSwaps v w p') (values : List Term) :
    Follows (TupleSwaps v w) (p.addRow values) (p'.addRow values) := by
  unfold Positional.addRow
  rw [h.header_eq]
  split
  · exact .error _
  · split_ifs
    · exact .error _
    · exact AgreeUnless.map_same fun fs => ⟨rfl, h.tuples.cons (tuple fs)⟩

theorem TupleSwaps.step (h : p.TupleSwaps v w p') (call : Call Term) :
    Follows (TupleSwaps v w) (p.step call) (p'.step call) := by
  obtain ⟨clause, operands⟩ := call
  cases clause with
  | columns => exact h.declare operands
  | rows => exact h.addRow operands
  | _ => exact .ok h

theorem HeaderSwaps.addRow (h : p.HeaderSwaps v w p') (values : List Term) :
    Follows (HeaderSwaps v w) (p.addRow values) (p'.addRow values) := by
  obtain ⟨names, names', width, left, right, swap⟩ := h.header
  unfold Positional.addRow
  simp only [left, right, h.tuples_eq]
  split_ifs
  · exact .error _
  · exact AgreeUnless.map_same fun fs => ⟨⟨names, names', width, rfl, rfl, swap⟩, rfl⟩

/-- Rows are added below the declaration; another one would take its place. -/
theorem HeaderSwaps.step (h : p.HeaderSwaps v w p') {call : Call Term}
    (other : call.clause ≠ .columns) :
    Follows (HeaderSwaps v w) (p.step call) (p'.step call) := by
  obtain ⟨clause, operands⟩ := call
  cases clause with
  | columns => contradiction
  | rows => exact h.addRow operands
  | _ => exact .ok h

theorem TupleSwaps.text (h : p.TupleSwaps v w p') :
    Follows (Fragment.Swaps v w) p.text p'.text := by
  unfold Positional.text
  simp only [h.header_eq, h.tuples.ne_nil]
  split
  · exact .error _
  · exact .ok ((Fragment.Swaps.join h.tuples.reverse ", ").prepend _)

theorem HeaderSwaps.text (h : p.HeaderSwaps v w p') :
    Follows (Fragment.Swaps v w) p.text p'.text := by
  obtain ⟨names, names', width, left, right, swap⟩ := h.header
  unfold Positional.text
  simp only [left, right, h.tuples_eq]
  split_ifs
  · exact .error _
  · exact .ok ((swap.parenthesized.append _).append _)

end Positional

variable (F : Log.Frame Term) {t u : Term}

/-- A parameter in a positional row. -/
theorem swaps_ofPositional_rows (rows : F.clause = .rows) (h : t.Swaps v w .operand u) :
    Follows (Fragment.Swaps v w) (ofPositional (F.fill t)) (ofPositional (F.fill u)) := by
  have changed (p : Positional) : Follows (Positional.TupleSwaps v w)
      (p.step ⟨F.clause, F.before ++ t :: F.after⟩)
      (p.step ⟨F.clause, F.before ++ u :: F.after⟩) := by
    rw [rows]
    exact p.swaps_addRow (.at_hole _ _ h)
  refine AgreeUnless.bind (AgreeUnless.foldlM changed ?_ _) fun p p' swaps => swaps.text
  exact fun p p' swaps call _ => swaps.step call

/-- A parameter in the last declaration of columns. -/
theorem swaps_ofPositional_columns (columns : F.clause = .columns)
    (last : ∀ call ∈ F.later, call.clause ≠ .columns) (h : t.Swaps v w .item u) :
    Follows (Fragment.Swaps v w) (ofPositional (F.fill t)) (ofPositional (F.fill u)) := by
  have changed (p : Positional) : Follows (Positional.HeaderSwaps v w)
      (p.step ⟨F.clause, F.before ++ t :: F.after⟩)
      (p.step ⟨F.clause, F.before ++ u :: F.after⟩) := by
    rw [columns]
    exact p.swaps_declare (.at_hole _ _ h)
  refine AgreeUnless.bind (AgreeUnless.foldlM changed ?_ _) fun p p' swaps => swaps.text
  exact fun p p' swaps call later => swaps.step (last call later)

/-! ### Rows given as mappings -/

/-- The same row, but for one parameter in the last entry of a column. -/
inductive RowSwaps (v w : Value) : Row → Row → Prop
  | cell (before : Row) (column : String) {t u : Term} (after : Row)
      (last : ∀ e ∈ after, e.1 ≠ column) (h : t.Swaps v w .operand u) :
      RowSwaps v w (before ++ (column, t) :: after) (before ++ (column, u) :: after)

variable (config : Config)

/-- Two keys that are mapped to different columns name different columns. -/
theorem swaps_row (before : List (String × Term)) (key : String) (after : List (String × Term))
    (last : ∀ e ∈ after, config.inputKey e.1 ≠ config.inputKey key)
    (h : t.Swaps v w .operand u) :
    Follows (RowSwaps v w)
      ((before ++ (key, t) :: after).mapM fun e => (config.column e.1).map (·, e.2))
      ((before ++ (key, u) :: after).mapM fun e => (config.column e.1).map (·, e.2)) := by
  simp only [List.mapM_append, List.mapM_cons]
  refine AgreeUnless.bind_same fun row => ?_
  cases named : config.column key with
  | error e => exact .error e
  | ok column =>
    cases read : after.mapM fun e => (config.column e.1).map (·, e.2) with
    | error e => exact .error e
    | ok rest =>
      refine .ok (.cell row column rest (fun e he => ?_) h)
      obtain ⟨entry, hentry, mapped⟩ := exists_of_mem_right (mapM_eq_ok_iff.1 read) he
      obtain ⟨name, hname, rfl⟩ := map_eq_ok mapped
      rw [Ident.checked_eq hname, Ident.checked_eq named]
      exact last entry hentry

/-- The rows of mappings, one of which has the change in an entry. -/
theorem swaps_rowsOf (rows rows' : List Term) (before : List (String × Term)) (key : String)
    (after : List (String × Term))
    (last : ∀ e ∈ after, config.inputKey e.1 ≠ config.inputKey key)
    (h : t.Swaps v w .operand u) :
    Follows (OneChange (RowSwaps v w))
      (rowsOf config (rows ++ .record ⟨before ++ (key, t) :: after⟩ :: rows'))
      (rowsOf config (rows ++ .record ⟨before ++ (key, u) :: after⟩ :: rows')) := by
  simp only [rowsOf, List.filterMap_append, List.filterMap_cons, Term.entries?]
  exact AgreeUnless.mapM (fun _ _ => rfl) (swaps_row config before key after last h)

theorem columnsOf_eq_of_swaps {rows rows' : List Row} (h : OneChange (RowSwaps v w) rows rows') :
    columnsOf rows = columnsOf rows' := by
  obtain ⟨before, _, _, after, rfl, rfl, row⟩ := h
  cases row with
  | cell => simp [columnsOf]

/-- Of the cells of a row exactly one has the change. -/
theorem swaps_cells {row row' : Row} (h : RowSwaps v w row row') {columns : List String}
    (nodup : columns.Nodup) (all : ∀ e ∈ row, e.1 ∈ columns) :
    Follows (OneChange (Fragment.Swaps v w)) (columns.mapM (cell row))
      (columns.mapM (cell row')) := by
  cases h with
  | cell before column after last h =>
    have absent : after.reverse.find? (fun e => e.1 = column) = none := by simpa using last
    have found (t : Term) : cell (before ++ (column, t) :: after) column = t.operand := by
      simp [cell, absent]
    have same (t u : Term) {name : String} (other : name ≠ column) :
        cell (before ++ (column, t) :: after) name =
          cell (before ++ (column, u) :: after) name := by
      simp [cell, other.symm]
    -- the columns are distinct, so no cell but this one reads the entry
    obtain ⟨others, others', rfl⟩ := List.append_of_mem (all (column, _) List.mem_append_cons_self)
    refine AgreeUnless.mapM (fun name hname => same _ _ ?_) ?_
    · rintro rfl
      exact (List.nodup_middle.1 nodup).notMem hname
    · rw [found, found]
      exact h.operand

theorem swaps_ofRows {rows rows' : List Row} (h : OneChange (RowSwaps v w) rows rows') :
    Follows (Fragment.Swaps v w) (ofRows rows) (ofRows rows') := by
  have columns := columnsOf_eq_of_swaps h
  have nodup : (columnsOf rows).Nodup := (firstSeen_eraseDups _).nodup
  have mem {row : Row} (hrow : row ∈ rows) : ∀ e ∈ row, e.1 ∈ columnsOf rows := fun e he =>
    List.mem_eraseDups.2 (List.mem_flatMap.2 ⟨row, hrow, List.mem_map_of_mem he⟩)
  have given : (columnsOf rows).isEmpty = false := by
    obtain ⟨before, _, _, after, rfl, -, row⟩ := h
    cases row with
    | cell es column es' =>
      have named := mem List.mem_append_cons_self (column, _) List.mem_append_cons_self
      exact List.isEmpty_eq_false_iff.2 (List.ne_nil_of_mem named)
  simp only [ofRows, ← columns, given, h.ne_nil, Bool.false_eq_true, if_false]
  obtain ⟨before, row, row', after, rfl, rfl, swap⟩ := h
  generalize columnsOf (before ++ row :: after) = names at *
  have cells : Follows (Fragment.Swaps v w) ((names.mapM (cell row)).map tuple)
      ((names.mapM (cell row')).map tuple) :=
    (swaps_cells swap nodup (mem List.mem_append_cons_self)).map fun _ _ => swaps_tuple
  refine AgreeUnless.bind (AgreeUnless.mapM (fun _ _ => rfl) cells) fun fs gs tuples => .ok ?_
  exact (Fragment.Swaps.join tuples ", ").prepend _

/-! ### All rows -/

theorem forms_fill (same : t.isRecord = u.isRecord) :
    ((F.fill t).operandsOf .rows).mapM rowForm = ((F.fill u).operandsOf .rows).mapM rowForm := by
  by_cases rows : F.clause = .rows
  · have form : rowForm (F.before ++ t :: F.after) = rowForm (F.before ++ u :: F.after) := by
      simp [rowForm, same]
    rw [← rows, F.operandsOf_fill, F.operandsOf_fill]
    simp only [List.mapM_append, List.mapM_cons, form]
  · rw [F.operandsOf_fill_of_ne rows t u]

/-- The rows of an insert, positional or mappings, depend on the hole alike. -/
theorem swaps_list_of (same : t.isRecord = u.isRecord)
    (positional : (∀ ts ∈ (F.fill t).operandsOf .rows, ∀ r ∈ ts, r.isRecord = false) →
      Follows (Fragment.Swaps v w) (ofPositional (F.fill t)) (ofPositional (F.fill u)))
    (records : ((F.fill t).allOperands .rows).all Term.isRecord →
      (F.fill t).uses (· = .columns) = false → Follows (OneChange (RowSwaps v w))
        (rowsOf config ((F.fill t).allOperands .rows))
        (rowsOf config ((F.fill u).allOperands .rows))) :
    Follows (Fragment.Swaps v w) (list config (F.fill t)) (list config (F.fill u)) := by
  unfold list
  rw [← forms_fill F same, F.uses_fill u t]
  cases hforms : ((F.fill t).operandsOf .rows).mapM rowForm with
  | error e => exact .error e
  | ok forms =>
    simp only [bind, Except.bind]
    split_ifs with all mixed
    · exact positional (values_of_forms hforms all)
    · exact .error _
    · rw [Bool.not_eq_true, Bool.or_eq_false_iff] at mixed
      exact (records (isRecord_of_forms hforms mixed.1) mixed.2).bind fun _ _ => swaps_ofRows

theorem mem_operandsOf_fill (x : Term) :
    F.before ++ x :: F.after ∈ (F.fill x).operandsOf F.clause := by
  rw [F.operandsOf_fill]
  exact List.mem_append_cons_self

/-- A parameter in a positional row. -/
theorem swaps_list_rows (rows : F.clause = .rows) (h : t.Swaps v w .operand u) :
    Follows (Fragment.Swaps v w) (list config (F.fill t)) (list config (F.fill u)) := by
  refine swaps_list_of F config h.isRecord_eq (fun _ => swaps_ofPositional_rows F rows h) ?_
  intro records _
  have given : t ∈ (F.fill t).allOperands .rows :=
    List.mem_flatten_of_mem (rows ▸ mem_operandsOf_fill F t) List.mem_append_cons_self
  have mapping := List.all_eq_true.1 records t given
  rw [h.isRecord_operand.1] at mapping
  cases mapping

/-- A parameter in the last declaration of columns. -/
theorem swaps_list_columns (columns : F.clause = .columns)
    (last : ∀ call ∈ F.later, call.clause ≠ .columns) (h : t.Swaps v w .item u) :
    Follows (Fragment.Swaps v w) (list config (F.fill t)) (list config (F.fill u)) := by
  refine swaps_list_of F config h.isRecord_eq
    (fun _ => swaps_ofPositional_columns F columns last h) fun _ undeclared => ?_
  simp [Log.uses, Log.Frame.fill, columns] at undeclared

/-- A parameter in an entry of a row, if no later entry is for the same column. -/
theorem swaps_list_cell (rows : F.clause = .rows) (before : List (String × Term)) (key : String)
    (after : List (String × Term)) (last : ∀ e ∈ after, config.inputKey e.1 ≠ config.inputKey key)
    (h : t.Swaps v w .operand u) :
    Follows (Fragment.Swaps v w)
      (list config (F.fill (.record ⟨before ++ (key, t) :: after⟩)))
      (list config (F.fill (.record ⟨before ++ (key, u) :: after⟩))) := by
  refine swaps_list_of F config rfl (fun values => ?_) fun _ _ => ?_
  -- a mapping is among the rows, so they are not positional
  · have mapping := values _ (rows ▸ mem_operandsOf_fill F _) _ List.mem_append_cons_self
    cases mapping
  · have all (x : Term) : (F.fill x).allOperands .rows =
        (F.earlier.allOperands .rows ++ F.before) ++
          x :: (F.after ++ F.later.allOperands .rows) := by
      simp [Log.allOperands, ← rows, F.operandsOf_fill]
    rw [all, all]
    exact swaps_rowsOf config _ _ before key after last h

end SqlBuilder.Insertion
