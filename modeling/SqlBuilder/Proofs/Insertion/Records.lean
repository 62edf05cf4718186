import Mathlib.Data.List.Induction
import Mathlib.Data.List.Nodup
import SqlBuilder.Proofs.Ident
import SqlBuilder.Proofs.Insertion.Layout
import SqlBuilder.Proofs.Record

/-!
# Rows given as mappings

Rows may be mappings with different keys in any order. The columns are the keys of all rows, each
at its first appearance (`FirstSeen`), and every row has one item in each column: what the last
of its entries for the column holds, or `default` (`Supplies`). So each value stands below its own
column (`Query.records_aligned`). Without any key there is nothing to line up: a single row is
written as `default values`, and anything else is refused.
-/

namespace SqlBuilder

namespace Insertion

/-! ### Items -/

/-- What a mapping holds in a column: the operand of the last of its entries whose key is mapped to
the column, whatever it is, and `default` if it has none. -/
inductive Supplies (key : String → String) (r : Record Term) (column : String) : Fragment → Prop
  | entry {before after : List (String × Term)} {e : String × Term} {item : Fragment}
    (split : r.entries = before ++ e :: after) (named : key e.1 = column)
    (last : ∀ e' ∈ after, key e'.1 ≠ column) (written : e.2.operand = .ok item) :
    Supplies key r column item
  | default (absent : ∀ e ∈ r.entries, key e.1 ≠ column) :
    Supplies key r column (Fragment.ofSql "default")

/-- Mappings as rows below columns: the columns are all of their keys, and each row has one item
in every column. -/
structure Tabulates (key : String → String) (mappings : List (Record Term))
    (columns : List String) (rows : List (List Fragment)) : Prop where
  seen : FirstSeen (mappings.flatMap fun r => r.keys.map key) columns
  supplied : List.Forall₂ (fun r row => List.Forall₂ (Supplies key r) columns row) mappings rows

/-- A mapping with mapped keys. -/
def mappedRow (key : String → String) (r : Record Term) : Row :=
  r.entries.map fun e => (key e.1, e.2)

variable {config : Config}

theorem rowsOf_records (mappings : List (Record Term)) :
    rowsOf config (mappings.map .record) = mappings.mapM fun r =>
      r.entries.mapM fun entry => (config.column entry.1).map (·, entry.2) := by
  have entries : (mappings.map Term.record).filterMap Term.entries? = mappings := by
    simp [List.filterMap_map, Function.comp_def, Term.entries?]
  rw [rowsOf, entries]

/-- Checking the keys leaves the columns that they are mapped to. -/
theorem ensures_rowsOf (mappings : List (Record Term)) :
    Ensures (rowsOf config (mappings.map .record)) fun rows =>
      rows = mappings.map (mappedRow config.inputKey) := by
  have row (r : Record Term) : Ensures
      (r.entries.mapM fun entry => (config.column entry.1).map (·, entry.2))
      fun row => row = mappedRow config.inputKey r := by
    refine (Ensures.mapM_same (T := fun x e => x = (config.inputKey e.1, e.2)) fun e => ?_).mono ?_
    · have column : Ensures (config.column e.1) fun name => name = config.inputKey e.1 :=
        fun name hname => Ident.checked_eq hname
      exact column.map fun name hname => by rw [hname]
    · intro row hrow
      rw [mappedRow, ← List.forall₂_eq_eq_eq, List.forall₂_map_right_iff]
      exact hrow
  rw [rowsOf_records]
  refine (Ensures.mapM_same row).mono fun rows hrows => ?_
  rw [← List.forall₂_eq_eq_eq, List.forall₂_map_right_iff]
  exact hrows

theorem isOk_rowsOf_iff (mappings : List (Record Term)) :
    (rowsOf config (mappings.map .record)).isOk ↔
      ∀ r ∈ mappings, ∀ e ∈ r.entries, (config.column e.1).isOk := by
  simp only [rowsOf_records, isOk_mapM_iff, isOk_map]

theorem rowsOf_eq {mappings : List (Record Term)}
    (valid : ∀ r ∈ mappings, ∀ e ∈ r.entries, (config.column e.1).isOk) :
    rowsOf config (mappings.map .record) = .ok (mappings.map (mappedRow config.inputKey)) := by
  obtain ⟨rows, hrows⟩ := isOk_iff.1 ((isOk_rowsOf_iff mappings).2 valid)
  rw [hrows, ensures_rowsOf mappings rows hrows]

/-- What a row holds in a column is what the mapping supplies. -/
theorem supplies_cell (key : String → String) (r : Record Term) (column : String) :
    Ensures (cell (mappedRow key r) column) (Supplies key r column) := by
  unfold cell
  rw [mappedRow, ← List.map_reverse, List.find?_map]
  cases found : r.entries.reverse.find? ((fun entry => decide (entry.1 = column)) ∘
      fun e : String × Term => (key e.1, e.2)) with
  | none =>
    refine .ok (.default fun e he same => ?_)
    have other := List.find?_eq_none.1 found e (List.mem_reverse.2 he)
    exact other (decide_eq_true same)
  | some e =>
    obtain ⟨named, later, earlier, reversed, others⟩ := List.find?_eq_some_iff_append.1 found
    have split : r.entries = earlier.reverse ++ e :: later.reverse := by
      rw [← List.reverse_reverse r.entries, reversed]
      simp
    refine fun item written => .entry split (of_decide_eq_true named) ?_ written
    intro e' he' same
    have other := others e' (List.mem_reverse.1 he')
    simp [same] at other

/-- Each row has what its mapping supplies. -/
theorem ensures_cells (key : String → String) (mappings : List (Record Term))
    (columns : List String) :
    Ensures (mappings.mapM fun r => columns.mapM (cell (mappedRow key r))) fun rows =>
      List.Forall₂ (fun r row => List.Forall₂ (Supplies key r) columns row) mappings rows :=
  (Ensures.mapM_same fun r => Ensures.mapM_same fun column => supplies_cell key r column).mono
    fun _ rows => rows.flip.imp fun _ _ row => row.flip

/-- An item is written if all operands of the mapping are. -/
theorem isOk_cell {key : String → String} {r : Record Term}
    (written : ∀ e ∈ r.entries, e.2.operand.isOk) (column : String) :
    (cell (mappedRow key r) column).isOk := by
  unfold cell
  split
  · rename_i e found
    have he := List.mem_reverse.1 (List.mem_of_find?_eq_some found)
    obtain ⟨e', he', rfl⟩ := List.mem_map.1 he
    exact written e' he'
  · rfl

/-- Where no operand is written without text, no item is empty. -/
theorem Supplies.isEmpty_eq {key : String → String} {r : Record Term} {column : String}
    {item : Fragment} (h : Supplies key r column item)
    (spoken : ∀ e ∈ r.entries, Ensures e.2.operand fun item => item.isEmpty = false) :
    item.isEmpty = false := by
  cases h with
  | @entry _ _ e _ split _ _ written => exact spoken e (by simp [split]) item written
  | default => rfl

theorem columnsOf_mapped (key : String → String) (mappings : List (Record Term)) :
    columnsOf (mappings.map (mappedRow key)) =
      (mappings.flatMap fun r => r.keys.map key).eraseDups := by
  rw [columnsOf, List.flatMap_map]
  simp only [mappedRow, Record.keys, List.map_map, Function.comp_def]

/-- The text of columns that are names. -/
theorem ofSql_columns (columns : List String) (rows : List (List Fragment)) :
    Fragment.ofSql ("(" ++ ", ".intercalate columns ++ ") values ") ++
        Fragment.join (rows.map tuple) ", " =
      layout (columns.map Fragment.ofSql) (rows.map Fragment.emitted) := by
  refine (Fragment.canonical_ofPieces _).eq_of_symbols (Fragment.canonical_ofPieces _) ?_
  change (_ ++ _ : Fragment).symbols = (layout _ _).symbols
  rw [join_tuples, layout]
  simp [Fragment.symbols_listed_ofSql]

/-- Rows without keys are written as `default values` if there is just one, and all others are
written below their columns. -/
theorem ofRows_mapped (key : String → String) (mappings : List (Record Term)) :
    ofRows (mappings.map (mappedRow key)) =
      let columns := (mappings.flatMap fun r => r.keys.map key).eraseDups
      if mappings.isEmpty then .error (.arity .noRows)
      else if columns.isEmpty then
        if mappings.length = 1 then .ok (Fragment.ofSql "default values")
        else .error (.arity .emptyRows)
      else (mappings.mapM fun r => columns.mapM (cell (mappedRow key r))).map fun rows =>
        layout (columns.map Fragment.ofSql) (rows.map Fragment.emitted) := by
  rw [ofRows, columnsOf_mapped, List.mapM_map]
  simp only [Function.comp_def, mapM_map_eq]
  simp only [List.isEmpty_map, List.length_map]
  generalize (mappings.flatMap fun r => r.keys.map key).eraseDups = columns
  split_ifs
  · rfl
  · rfl
  · rfl
  · cases mappings.mapM fun r => columns.mapM (cell (mappedRow key r)) with
    | error e => rfl
    | ok rows => exact congrArg Except.ok (ofSql_columns columns rows)

/-- Mappings that have keys are written below their columns, with one item for each column in
every row. -/
theorem ofRows_tabulates {key : String → String} {mappings : List (Record Term)}
    (keyed : (mappings.flatMap fun r => r.keys.map key) ≠ [])
    (written : ∀ r ∈ mappings, ∀ e ∈ r.entries, e.2.operand.isOk)
    (spoken : ∀ r ∈ mappings, ∀ e ∈ r.entries,
      Ensures e.2.operand fun item => item.isEmpty = false) :
    ∃ columns rows, Tabulates key mappings columns rows ∧
      ofRows (mappings.map (mappedRow key)) = .ok (layout (columns.map Fragment.ofSql) rows) := by
  have some : mappings.isEmpty = false := by
    rw [List.isEmpty_eq_false_iff]
    rintro rfl
    exact keyed rfl
  have seen := firstSeen_eraseDups (mappings.flatMap fun r => r.keys.map key)
  have columned : (mappings.flatMap fun r => r.keys.map key).eraseDups.isEmpty = false := by
    obtain ⟨column, hcolumn⟩ := List.exists_mem_of_ne_nil _ keyed
    rw [List.isEmpty_eq_false_iff]
    exact List.ne_nil_of_mem ((seen.mem_iff column).2 hcolumn)
  rw [ofRows_mapped]
  simp only [some, columned, Bool.false_eq_true, if_false]
  generalize (mappings.flatMap fun r => r.keys.map key).eraseDups = columns at seen
  have succeeds : (mappings.mapM fun r => columns.mapM (cell (mappedRow key r))).isOk :=
    isOk_mapM_iff.2 fun r hr => isOk_mapM_iff.2 fun column _ => isOk_cell (written r hr) column
  obtain ⟨rows, hrows⟩ := isOk_iff.1 succeeds
  have items : ∀ row ∈ rows, ∀ item ∈ row, item.isEmpty = false :=
    Ensures.mapM_forall (fun r hr => Ensures.mapM_forall fun column _ =>
      (supplies_cell key r column).mono fun _ item => item.isEmpty_eq (spoken r hr)) rows hrows
  have full : rows.map Fragment.emitted = rows :=
    (List.map_congr_left fun row hrow => Fragment.emitted_eq_self (items row hrow)).trans
      (List.map_id rows)
  refine ⟨columns, rows, ⟨seen, ensures_cells key mappings columns rows hrows⟩, ?_⟩
  rw [hrows, Except.map, full]

/-- Without keys only a single row can be written. -/
theorem ofRows_unkeyed {key : String → String} {mappings : List (Record Term)}
    (unkeyed : (mappings.flatMap fun r => r.keys.map key) = []) :
    (mappings.length = 1 →
      ofRows (mappings.map (mappedRow key)) = .ok (Fragment.ofSql "default values")) ∧
    (mappings.length ≠ 1 → ∃ fault, ofRows (mappings.map (mappedRow key)) =
      .error (.arity fault)) := by
  rw [ofRows_mapped, unkeyed]
  match mappings with
  | [] => exact ⟨nofun, fun _ => ⟨_, rfl⟩⟩
  | [r] => exact ⟨fun _ => rfl, fun several => absurd rfl several⟩
  | _ :: _ :: _ => exact ⟨nofun, fun _ => ⟨_, rfl⟩⟩

/-- Where all rows are mappings and no columns are declared, the mappings are written. -/
theorem list_of_records {log : Log Term} {mappings : List (Record Term)}
    (suits : log.Suits .insert) (undeclared : log.operandsOf .columns = [])
    (given : log.allOperands .rows = mappings.map .record) :
    list config log = rowsOf config (mappings.map .record) >>= ofRows := by
  have calls := suits.columns_or_rows.resolve_left (not_not.2 undeclared)
  have records : ∀ ts ∈ log.operandsOf .rows, rowForm ts = .ok .records := by
    refine fun ts hts => rowForm_of_records fun t ht => ?_
    have row : t ∈ mappings.map Term.record := given ▸ List.mem_flatten.2 ⟨ts, hts, ht⟩
    obtain ⟨r, -, rfl⟩ := List.mem_map.1 row
    rfl
  have unused : log.uses (fun clause => clause = .columns) = false :=
    Log.uses_eq_false_iff.2 undeclared
  obtain ⟨ts, rest, hcalls⟩ := List.exists_cons_of_ne_nil calls
  rw [list, mapM_eq_ok_map records, given, unused, hcalls]
  simp [bind, Except.bind]

end Insertion

namespace Query

/-- Rows that are mappings stand below the columns that their keys are mapped to: the columns are
these keys, each where it is first seen, and every row has one item for each column, so the
parameters follow row by row. Without any key a single row is written as `default values`, and no
rows or several are refused. What else the query writes stands around that. -/
theorem records_aligned {q : Query Operand} {target : Term} {mappings : List (Record Term)}
    (h : q.terms.Insertable q.config target) (undeclared : q.terms.operandsOf .columns = [])
    (given : q.terms.allOperands .rows = mappings.map .record)
    (spoken : ∀ r ∈ mappings, ∀ e ∈ r.entries,
      Ensures e.2.operand fun item => item.isEmpty = false) :
    let insertion := q.terms.insertion q.config
    let keys := mappings.flatMap fun r => r.keys.map q.config.inputKey
    ∃ name, target.item = .ok name ∧
      (keys ≠ [] → ∃ columns rows text,
        Insertion.Tabulates q.config.inputKey mappings columns rows ∧ insertion = .ok text ∧
        text = (Fragment.headed "insert into" name).push " " ++
          Insertion.layout (columns.map Fragment.ofSql) rows ∧
        text.args = name.args ++ rows.flatMap fun row => row.flatMap Fragment.args) ∧
      (keys = [] → mappings.length = 1 →
        insertion = .ok ((Fragment.headed "insert into" name).push " " ++
          Fragment.ofSql "default values")) ∧
      (keys = [] → mappings.length ≠ 1 → ∃ fault, insertion = .error (.arity fault)) ∧
      ∀ before after, q.terms.Framed before after → q.compile = insertion.map fun text =>
        ⟨.insert, (Fragment.join [before, text, after] " ").toStatement⟩ := by
  intro insertion keys
  obtain ⟨name, hname⟩ := isOk_iff.1 h.target
  have fits : ∀ r ∈ mappings, ∀ e ∈ r.entries,
      (q.config.column e.1).isOk ∧ e.2.operand.isOk := by
    intro r hr
    exact h.rows (.record r) (given ▸ List.mem_map_of_mem hr)
  have written : insertion = (Insertion.ofRows (mappings.map
      (Insertion.mappedRow q.config.inputKey))).map fun rows =>
        (Fragment.headed "insert into" name).push " " ++ rows := by
    rw [show insertion = q.terms.insertion q.config from rfl, h.insertion_eq hname,
      Insertion.list_of_records h.suits undeclared given,
      Insertion.rowsOf_eq fun r hr e he => (fits r hr e he).1]
    rfl
  have kind : q.terms.statementKind = .ok .insert := by
    refine (Log.statementKind_eq_ok_iff _ _).2 ⟨h.suits, fun _ => ?_⟩
    simp [Log.LinesUp, undeclared]
  refine ⟨name, hname, fun keyed => ?_, fun none single => ?_, fun none several => ?_,
    fun before after framed => compile_of_framed kind framed⟩
  · obtain ⟨columns, rows, tabulates, hrows⟩ := Insertion.ofRows_tabulates keyed
      (fun r hr e he => (fits r hr e he).2) spoken
    refine ⟨columns, rows, _, tabulates, written.trans (by rw [hrows]; rfl), rfl, ?_⟩
    simp [Insertion.args_layout, List.flatMap_map]
  · rw [written, (Insertion.ofRows_unkeyed none).1 single]
    rfl
  · obtain ⟨fault, refused⟩ := (Insertion.ofRows_unkeyed none).2 several
    exact ⟨fault, by rw [written, refused]; rfl⟩

/-- People whose rows have different keys; one of them names its column by two keys. -/
def people : Query Operand :=
  let config := { Config.default with
    inputKey := fun key => if key = "surname" then "name" else key }
  (((Query.new config).table "person").insert (.record ⟨[("age", .value (.int 13))]⟩)).insertRows
    [.record ⟨[("surname", .value (.text "ho")), ("age", .value .null),
      ("name", .value (.text "jo"))]⟩]

/-- A row without a column takes `default` there, a null is a parameter like any other value, and
of two keys that are mapped to one column the later one counts. -/
theorem records_aligned_people :
    let q := people
    ∃ target mappings, q.terms.Insertable q.config target ∧ q.terms.operandsOf .columns = [] ∧
      q.terms.allOperands .rows = mappings.map .record ∧
      (∃ columns rows, Insertion.Tabulates q.config.inputKey mappings columns rows) ∧
      q.terms.Framed .empty .empty ∧ ∃ c, q.compile = .ok c ∧
        c.statement.args = [.int 13, .null, .text "jo"] ∧
        c.statement.text = "insert into person (age, name) values ($1, default), ($2, $3)" := by
  intro q
  let mappings : List (Record Term) := [⟨[("age", .value (.int 13))]⟩,
    ⟨[("surname", .value (.text "ho")), ("age", .value .null), ("name", .value (.text "jo"))]⟩]
  have given : q.terms.allOperands .rows = mappings.map .record := rfl
  have entries : ∀ r ∈ mappings, ∀ e ∈ r.entries,
      (q.config.column e.1).isOk ∧ e.2.operand.isOk := by
    decide +kernel
  have values : ∀ r ∈ mappings, ∀ e ∈ r.entries, ∃ v, e.2 = .value v := by
    simp only [mappings, List.forall_mem_cons]
    simp
  have insertable : q.terms.Insertable q.config (.raw "person") := by
    refine ⟨?_, rfl, rfl, nofun, ?_⟩
    · exact ((Log.statementKind_eq_ok_iff q.terms .insert).1 rfl).1
    · intro t ht
      rw [given] at ht
      obtain ⟨r, hr, rfl⟩ := List.mem_map.1 ht
      exact entries r hr
  have spoken : ∀ r ∈ mappings, ∀ e ∈ r.entries,
      Ensures e.2.operand fun item => item.isEmpty = false := by
    intro r hr e he
    obtain ⟨v, hv⟩ := values r hr e he
    rw [hv]
    exact .ok rfl
  have aligned := records_aligned insertable rfl given spoken
  obtain ⟨name, -, keyed, -⟩ := aligned
  obtain ⟨columns, rows, -, tabulates, -⟩ := keyed (by decide +kernel)
  exact ⟨.raw "person", mappings, insertable, rfl, given, ⟨columns, rows, tabulates⟩,
    ⟨rfl, rfl, rfl⟩, _, rfl, rfl, rfl⟩

/-- Behind an empty list of tables the only table is a target for the sections, which can write the
rows below their columns, but the check finds none, and the query is refused. -/
theorem records_untargeted :
    let q := (((Query.new Config.default).tables []).table "t").insert
      (.record ⟨[("a", .value (.int 1))]⟩)
    q.terms.Insertable q.config (.raw "t") ∧ q.terms.operandsOf .columns = [] ∧
      q.terms.allOperands .rows = [.record ⟨[("a", .value (.int 1))]⟩] ∧
      (∃ text, q.terms.insertion q.config = .ok text ∧
        text.toStatement = ⟨"insert into t (a) values ($1)", [.int 1]⟩) ∧
      q.compile = .error (.missingTarget .insert) := by
  refine ⟨⟨?_, rfl, rfl, nofun, ?_⟩, rfl, rfl, ⟨_, rfl, rfl⟩, rfl⟩
  · exact ((Log.statementKind_eq_ok_iff _ .insert).1 rfl).1
  · intro t ht
    obtain rfl := List.mem_singleton.1 ht
    exact List.forall_mem_singleton.2 ⟨by decide +kernel, rfl⟩

end Query

end SqlBuilder
