import Mathlib.Data.List.Chain
import Mathlib.Data.List.Induction
import SqlBuilder.Proofs.Insertion.Layout

/-!
# Rows given by position

Columns are declared once, or again for each row, and every row has one value for each column.
`Insertion.Legible` says when the calls may be read one after the other: columns come first, each
declaration repeats the one before it, and each row is as wide as the columns. A call more is
legible or refused (`Insertion.Reads.step`), so a log is read or refused as a whole
(`Insertion.read`). What has been read is the last declaration and all rows in order
(`Insertion.Reads`).
-/

namespace SqlBuilder

variable {α : Type}

namespace Log

/-- The calls that declare columns or give rows. -/
def lines (log : Log α) : Log α := log.only fun clause => clause = .columns || clause = .rows

theorem operandsOf_lines_columns (log : Log α) :
    log.lines.operandsOf .columns = log.operandsOf .columns := log.operandsOf_only rfl

theorem operandsOf_lines_rows (log : Log α) :
    log.lines.operandsOf .rows = log.operandsOf .rows := log.operandsOf_only rfl

variable {call : Call α} {clause : Clause}

theorem operandsOf_snoc (log : Log α) (h : call.clause = clause) :
    operandsOf (log ++ [call]) clause = log.operandsOf clause ++ [call.operands] := by
  simp [operandsOf, h]

theorem operandsOf_snoc_of_ne (log : Log α) (h : call.clause ≠ clause) :
    operandsOf (log ++ [call]) clause = log.operandsOf clause := by
  simp [operandsOf, h]

theorem lines_snoc (log : Log α) (h : call.clause = .columns ∨ call.clause = .rows) :
    lines (log ++ [call]) = log.lines ++ [call] := by
  simp [lines, only, h]

theorem lines_snoc_of_ne (log : Log α) (columns : call.clause ≠ .columns)
    (rows : call.clause ≠ .rows) : lines (log ++ [call]) = log.lines := by
  simp [lines, only, columns, rows]

end Log

namespace Insertion

/-- The declarations have the same number of columns and the same text, with parameters compared
as values. -/
def SameColumns (columns columns' : List Term) : Prop :=
  columns.length = columns'.length ∧
    ∃ names names', Term.list columns = .ok names ∧ Term.list columns' = .ok names' ∧
      names == names'

theorem sameColumns_iff {columns columns' : List Term} {names names' : Fragment}
    (h : Term.list columns = .ok names) (h' : Term.list columns' = .ok names') :
    SameColumns columns columns' ↔ columns.length = columns'.length ∧ names == names' := by
  simp only [SameColumns, h, h', Except.ok.injEq, ↓existsAndEq, true_and]

/-- Columns and rows can be read one call after the other. -/
structure Legible (log : Log Term) : Prop where
  /-- Columns are declared in front of all rows. -/
  first : ∀ call ∈ log.lines.head?, call.clause = .columns
  /-- Each declaration repeats the one before it. -/
  same : (log.operandsOf .columns).IsChain SameColumns
  width : ∀ columns ∈ log.operandsOf .columns, ∀ values ∈ log.operandsOf .rows,
    values.length = columns.length

variable {log : Log Term} {call : Call Term}

/-- Where no columns are declared there are no rows. -/
theorem Legible.lines_eq_nil (h : Legible log) (undeclared : log.operandsOf .columns = []) :
    log.lines = [] := by
  cases lines : log.lines with
  | nil => rfl
  | cons call rest =>
    have declares : call.clause = .columns := h.first call (by simp [lines])
    have hcall : call ∈ log := List.mem_of_mem_filter (lines ▸ List.mem_cons_self)
    exact absurd undeclared (declares ▸ List.ne_nil_of_mem (Log.mem_operandsOf hcall))

theorem Legible.declared (h : Legible log) (rows : log.operandsOf .rows ≠ []) :
    log.operandsOf .columns ≠ [] := by
  intro undeclared
  rw [← Log.operandsOf_lines_rows, h.lines_eq_nil undeclared] at rows
  exact rows rfl

/-- All declarations have the same number of columns. -/
theorem Legible.length_eq (h : Legible log) {columns columns' : List Term}
    (hcolumns : columns ∈ log.operandsOf .columns)
    (hcolumns' : columns' ∈ log.operandsOf .columns) : columns.length = columns'.length := by
  have equal : ((log.operandsOf .columns).map List.length).IsChain (· = ·) :=
    List.isChain_map_of_isChain _ (fun _ _ same => same.1) h.same
  exact (List.isChain_iff_pairwise.1 equal).forall_of_forall (fun _ _ => rfl)
    (List.mem_map_of_mem hcolumns) (List.mem_map_of_mem hcolumns')

/-! ### One call more -/

theorem forall_mem_head?_snoc {P : α → Prop} {xs : List α} {x : α} :
    (∀ y ∈ (xs ++ [x]).head?, P y) ↔ (∀ y ∈ xs.head?, P y) ∧ (xs = [] → P x) := by
  cases xs <;> simp

theorem isChain_snoc {R : α → α → Prop} {xs : List α} {x : α} :
    (xs ++ [x]).IsChain R ↔ xs.IsChain R ∧ ∀ y ∈ xs.getLast?, R y x := by
  simp [List.isChain_append]

/-- One more declaration repeats the last one. -/
theorem legible_snoc_columns (declares : call.clause = .columns) : Legible (log ++ [call]) ↔
    Legible log ∧ ∀ columns ∈ (log.operandsOf .columns).getLast?,
      SameColumns columns call.operands := by
  have lines := log.lines_snoc (.inl declares)
  have columns := log.operandsOf_snoc declares
  have rows : Log.operandsOf (log ++ [call]) .rows = log.operandsOf .rows :=
    log.operandsOf_snoc_of_ne (by simp [declares])
  constructor
  · rintro ⟨first, same, width⟩
    rw [lines, forall_mem_head?_snoc] at first
    rw [columns, isChain_snoc] at same
    rw [columns, rows] at width
    exact ⟨⟨first.1, same.1, fun c hc => width c (List.mem_append_left _ hc)⟩, same.2⟩
  · rintro ⟨h, repeats⟩
    have width : ∀ values ∈ log.operandsOf .rows, values.length = call.operands.length := by
      intro values hvalues
      have declared := h.declared (List.ne_nil_of_mem hvalues)
      have last := List.getLast?_eq_some_getLast declared
      rw [h.width _ (List.mem_of_getLast? last) values hvalues]
      exact (repeats _ last).1
    refine ⟨?_, ?_, ?_⟩
    · rw [lines, forall_mem_head?_snoc]
      exact ⟨h.first, fun _ => declares⟩
    · rw [columns, isChain_snoc]
      exact ⟨h.same, repeats⟩
    · rw [columns, rows]
      exact List.forall_mem_append.2 ⟨h.width, List.forall_mem_singleton.2 width⟩

/-- One more row has one value for each of the columns that were declared last. -/
theorem legible_snoc_rows (gives : call.clause = .rows) : Legible (log ++ [call]) ↔
    Legible log ∧ ∃ columns ∈ (log.operandsOf .columns).getLast?,
      call.operands.length = columns.length := by
  have lines := log.lines_snoc (.inr gives)
  have columns : Log.operandsOf (log ++ [call]) .columns = log.operandsOf .columns :=
    log.operandsOf_snoc_of_ne (by simp [gives])
  have rows := log.operandsOf_snoc gives
  constructor
  · rintro ⟨first, same, width⟩
    rw [lines, forall_mem_head?_snoc] at first
    rw [columns] at same
    rw [columns, rows] at width
    have h : Legible log := ⟨first.1, same, fun columns hcolumns values hvalues =>
      width columns hcolumns values (List.mem_append_left _ hvalues)⟩
    have declared : log.operandsOf .columns ≠ [] := by
      intro undeclared
      have clause := first.2 (h.lines_eq_nil undeclared)
      rw [gives] at clause
      cases clause
    have last := List.getLast?_eq_some_getLast declared
    exact ⟨h, _, last, width _ (List.mem_of_getLast? last) _ (by simp)⟩
  · rintro ⟨h, last, hlast, width⟩
    have declared := List.mem_of_getLast? hlast
    refine ⟨?_, ?_, ?_⟩
    · rw [lines, forall_mem_head?_snoc]
      refine ⟨h.first, fun none => ?_⟩
      rw [← Log.operandsOf_lines_columns, none] at declared
      cases declared
    · rw [columns]
      exact h.same
    · rw [columns, rows]
      intro columns hcolumns
      refine List.forall_mem_append.2 ⟨h.width columns hcolumns, List.forall_mem_singleton.2 ?_⟩
      rw [width, h.length_eq declared hcolumns]

/-- Whether a log is legible depends on its lines alone. -/
theorem Legible.of_lines {log' : Log Term} (h : Legible log) (lines : log.lines = log'.lines) :
    Legible log' := by
  have columns : log.operandsOf .columns = log'.operandsOf .columns := by
    rw [← Log.operandsOf_lines_columns, lines, Log.operandsOf_lines_columns]
  have rows : log.operandsOf .rows = log'.operandsOf .rows := by
    rw [← Log.operandsOf_lines_rows, lines, Log.operandsOf_lines_rows]
  exact ⟨lines ▸ h.first, columns ▸ h.same, columns ▸ rows ▸ h.width⟩

/-! ### Reading -/

/-- The text of a row. -/
def rowText (values : List Term) : Except Error Fragment :=
  (values.mapM Term.operand).map tuple

/-- What has been read from the calls: the last declaration and the texts of all rows. -/
structure Reads (log : Log Term) (p : Positional) : Prop where
  header : Option.Rel (fun columns header =>
    Term.list columns = .ok header.1 ∧ header.2 = columns.length)
    (log.operandsOf .columns).getLast? p.header
  tuples : (log.operandsOf .rows).mapM rowText = .ok p.tuples.reverse

/-- The log is legible and has been read, or it is not and has been refused. -/
inductive Reading (log : Log Term) : Except Error Positional → Prop
  | read {p : Positional} (legible : Legible log) (reads : Reads log p) : Reading log (.ok p)
  | refused (fault : ArityFault) (illegible : ¬ Legible log) :
    Reading log (.error (.arity fault))

/-- The columns or the values of the call can be written. -/
def Writable (call : Call Term) : Prop :=
  (call.clause = .columns → (Term.list call.operands).isOk) ∧
    (call.clause = .rows → (call.operands.mapM Term.operand).isOk)

variable {p : Positional}

/-- A declaration is taken up if there is none before it or it repeats the last one. -/
theorem Reads.declare (h : Reads log p) (legible : Legible log) (declares : call.clause = .columns)
    (written : (Term.list call.operands).isOk) :
    Reading (log ++ [call]) (p.declare call.operands) := by
  obtain ⟨header, tuples⟩ := p
  obtain ⟨names, hnames⟩ := isOk_iff.1 written
  have columns : (Log.operandsOf (log ++ [call]) .columns).getLast? = some call.operands := by
    rw [log.operandsOf_snoc declares, List.getLast?_concat]
  have rows : Log.operandsOf (log ++ [call]) .rows = log.operandsOf .rows :=
    log.operandsOf_snoc_of_ne (by simp [declares])
  have reads : Reads (log ++ [call]) ⟨some (names, call.operands.length), tuples⟩ := by
    refine ⟨?_, by rw [rows]; exact h.tuples⟩
    rw [columns]
    exact .some ⟨hnames, rfl⟩
  have repeats : Legible (log ++ [call]) ↔ Legible log ∧
      ∀ columns ∈ (log.operandsOf .columns).getLast?, SameColumns columns call.operands :=
    legible_snoc_columns declares
  have last := h.header
  rw [Positional.declare, hnames]
  simp only at last
  generalize (log.operandsOf .columns).getLast? = declared at repeats last
  cases last with
  | none =>
    refine .read (repeats.2 ⟨legible, ?_⟩) reads
    rintro _ ⟨⟩
  | @some columns header related =>
    obtain ⟨earlier, width⟩ := header
    obtain ⟨hearlier, rfl⟩ := related
    have same : SameColumns columns call.operands ↔
        ¬ (earlier != names || columns.length ≠ call.operands.length) := by
      rw [sameColumns_iff hearlier hnames]
      simp [bne, and_comm]
    change Reading _ (if earlier != names || columns.length ≠ call.operands.length then
      .error (.arity .columnLists) else .ok ⟨some (names, call.operands.length), tuples⟩)
    split_ifs with differ
    · refine .refused _ fun legible' => ?_
      exact same.1 ((repeats.1 legible').2 columns rfl) differ
    · refine .read (repeats.2 ⟨legible, ?_⟩) reads
      rintro _ ⟨⟩
      exact same.2 differ

/-- A row is taken up if columns are declared before it and it has a value for each of them. -/
theorem Reads.addRow (h : Reads log p) (legible : Legible log) (gives : call.clause = .rows)
    (written : (call.operands.mapM Term.operand).isOk) :
    Reading (log ++ [call]) (p.addRow call.operands) := by
  obtain ⟨header, tuples⟩ := p
  obtain ⟨row, hrow⟩ := isOk_iff.1 written
  have columns : Log.operandsOf (log ++ [call]) .columns = log.operandsOf .columns :=
    log.operandsOf_snoc_of_ne (by simp [gives])
  have rows := log.operandsOf_snoc gives
  have reads : Reads (log ++ [call]) ⟨header, tuple row :: tuples⟩ := by
    refine ⟨by rw [columns]; exact h.header, ?_⟩
    rw [rows, List.mapM_append, h.tuples]
    simp [rowText, hrow, bind, Except.bind, pure, Except.pure, Except.map]
  have fits : Legible (log ++ [call]) ↔ Legible log ∧
      ∃ columns ∈ (log.operandsOf .columns).getLast?, call.operands.length = columns.length :=
    legible_snoc_rows gives
  have last := h.header
  rw [Positional.addRow]
  simp only at last
  generalize (log.operandsOf .columns).getLast? = declared at fits last
  cases last with
  | none =>
    refine .refused _ fun legible' => ?_
    obtain ⟨-, columns, hcolumns, -⟩ := fits.1 legible'
    cases hcolumns
  | @some columns header related =>
    obtain ⟨names, width⟩ := header
    obtain ⟨-, rfl⟩ := related
    simp only
    by_cases width : call.operands.length = columns.length
    · rw [if_neg (not_not.2 width), hrow]
      exact .read (fits.2 ⟨legible, columns, rfl, width⟩) reads
    · rw [if_pos width]
      refine .refused _ fun legible' => ?_
      obtain ⟨-, columns', last, same⟩ := fits.1 legible'
      obtain rfl : columns = columns' := Option.some.inj last
      exact width same

/-- One more call is read or refused. -/
theorem Reads.step (h : Reads log p) (legible : Legible log) (written : Writable call) :
    Reading (log ++ [call]) (p.step call) := by
  unfold Positional.step
  split
  · rename_i declares
    exact h.declare legible declares (written.1 declares)
  · rename_i gives
    exact h.addRow legible gives (written.2 gives)
  · rename_i columns rows
    have lines := (log.lines_snoc_of_ne columns rows).symm
    refine .read (legible.of_lines lines) ⟨?_, ?_⟩
    · rw [← Log.operandsOf_lines_columns, ← lines, Log.operandsOf_lines_columns]
      exact h.header
    · rw [← Log.operandsOf_lines_rows, ← lines, Log.operandsOf_lines_rows]
      exact h.tuples

/-- The calls before a legible one are legible. -/
theorem Legible.of_snoc (h : Legible (log ++ [call])) : Legible log := by
  by_cases columns : call.clause = .columns
  · exact ((legible_snoc_columns columns).1 h).1
  · by_cases rows : call.clause = .rows
    · exact ((legible_snoc_rows rows).1 h).1
    · exact h.of_lines (log.lines_snoc_of_ne columns rows)

/-- A log is read as a whole or refused. -/
theorem read (written : ∀ call ∈ log, Writable call) :
    Reading log (log.foldlM Positional.step ⟨none, []⟩) := by
  induction log using List.reverseRecOn with
  | nil => exact .read ⟨nofun, .nil, nofun⟩ ⟨.none, rfl⟩
  | append_singleton log call ih =>
    rw [List.forall_mem_append, List.forall_mem_singleton] at written
    have before := ih written.1
    rw [List.foldlM_append]
    generalize log.foldlM Positional.step ⟨none, []⟩ = outcome at before
    cases before with
    | @read p legible reads =>
      change Reading _ ([call].foldlM Positional.step p)
      simpa only [List.foldlM_cons, List.foldlM_nil, bind_pure] using
        reads.step legible written.2
    | refused fault illegible => exact .refused fault fun legible => illegible legible.of_snoc

/-! ### What has been read -/

/-- What has been read depends on the last declaration and on the rows. -/
theorem Reads.unique {log' : Log Term} {p' : Positional} (h : Reads log p) (h' : Reads log' p')
    (columns : (log.operandsOf .columns).getLast? = (log'.operandsOf .columns).getLast?)
    (rows : log.operandsOf .rows = log'.operandsOf .rows) : p = p' := by
  obtain ⟨header, tuples⟩ := p
  obtain ⟨header', tuples'⟩ := p'
  have last := h.header
  have last' := h'.header
  have read := h.tuples
  rw [columns] at last
  rw [rows, h'.tuples, Except.ok.injEq, List.reverse_inj] at read
  simp only at last last' read
  generalize (log'.operandsOf .columns).getLast? = declared at last last'
  subst read
  cases last with
  | none =>
    cases last'
    rfl
  | @some columns header related =>
    cases last' with
    | @some _ header' related' =>
      have names : header.1 = header'.1 := Except.ok.inj (related.1.symm.trans related'.1)
      have width : header.2 = header'.2 := related.2.trans related'.2.symm
      rw [Prod.ext names width]

theorem ofPositional_unique {log' : Log Term} (written : ∀ call ∈ log, Writable call)
    (written' : ∀ call ∈ log', Writable call) (h : Legible log) (h' : Legible log')
    (columns : (log.operandsOf .columns).getLast? = (log'.operandsOf .columns).getLast?)
    (rows : log.operandsOf .rows = log'.operandsOf .rows) :
    ofPositional log = ofPositional log' := by
  have reading := read written
  have reading' := read written'
  rw [ofPositional, ofPositional]
  generalize log.foldlM Positional.step ⟨none, []⟩ = outcome at reading
  generalize log'.foldlM Positional.step ⟨none, []⟩ = outcome' at reading'
  cases reading with
  | refused _ illegible => exact absurd h illegible
  | read _ reads =>
    cases reading' with
    | refused _ illegible => exact absurd h' illegible
    | read _ reads' => rw [reads.unique reads' columns rows]

/-- The rows are written below the columns that were declared last. -/
theorem Reads.text_eq (h : Reads log p) (legible : Legible log) (rows : log.operandsOf .rows ≠ []) :
    ∃ columns names texts, columns ∈ (log.operandsOf .columns).getLast? ∧
      Term.list columns = .ok names ∧
      (log.operandsOf .rows).mapM rowText = .ok texts ∧
      p.text = .ok (names.parenthesized ++ Fragment.ofSql " values " ++
        Fragment.join texts ", ") := by
  obtain ⟨header, tuples⟩ := p
  have last := h.header
  have read := h.tuples
  have given : tuples.isEmpty = false := by
    rw [List.isEmpty_eq_false_iff]
    rintro rfl
    have none := mapM_eq_ok_iff.1 read
    rw [List.reverse_nil, List.forall₂_nil_right_iff] at none
    exact rows none
  have declared := legible.declared rows
  have hlast := List.getLast?_eq_some_getLast declared
  rw [hlast] at last
  cases last with
  | @some _ header related =>
    obtain ⟨names, width⟩ := header
    refine ⟨_, names, _, hlast, related.1, read, ?_⟩
    simp [Positional.text, given]

theorem Reads.text_refused (h : Reads log p) (none : log.operandsOf .rows = []) :
    ∃ fault, p.text = .error (.arity fault) := by
  obtain ⟨header, tuples⟩ := p
  have read := mapM_eq_ok_iff.1 h.tuples
  rw [none, List.forall₂_nil_left_iff, List.reverse_eq_nil_iff] at read
  obtain rfl : tuples = [] := read
  cases header <;> exact ⟨_, rfl⟩

/-- Positional rows are written if the calls are legible and there are rows, and refused
otherwise. -/
theorem ofPositional_cases (written : ∀ call ∈ log, Writable call) :
    (Legible log ∧ log.operandsOf .rows ≠ []) ∧ (∃ text, ofPositional log = .ok text) ∨
      ¬ (Legible log ∧ log.operandsOf .rows ≠ []) ∧
        ∃ fault, ofPositional log = .error (.arity fault) := by
  have reading := read written
  rw [ofPositional]
  generalize log.foldlM Positional.step ⟨none, []⟩ = outcome at reading
  cases reading with
  | refused fault illegible => exact .inr ⟨fun h => illegible h.1, fault, rfl⟩
  | read legible reads =>
    by_cases rows : log.operandsOf .rows = []
    · exact .inr ⟨fun h => h.2 rows, reads.text_refused rows⟩
    · obtain ⟨_, _, _, _, _, _, text⟩ := reads.text_eq legible rows
      exact .inl ⟨⟨legible, rows⟩, _, text⟩

end Insertion

/-- All that is written in the lines can be. -/
theorem Log.Insertable.writable {log : Log Term} {config : Config} {target : Term}
    (h : log.Insertable config target)
    (given : ∀ values ∈ log.operandsOf .rows, ∀ t ∈ values, t.isRecord = false) :
    ∀ call ∈ log, Insertion.Writable call := by
  intro call hcall
  have operands := Log.mem_operandsOf hcall
  refine ⟨fun declares => ?_, fun gives => ?_⟩
  · rw [declares] at operands
    exact h.columns _ operands
  · rw [gives] at operands
    refine isOk_mapM_iff.2 fun t ht => ?_
    have fits := h.rows t (List.mem_flatten.2 ⟨_, operands, ht⟩)
    have value := given _ operands t ht
    cases t with
    | record r => cases value
    | _ => exact fits

end SqlBuilder
