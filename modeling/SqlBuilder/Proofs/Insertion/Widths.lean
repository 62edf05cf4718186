import SqlBuilder.Proofs.Insertion.Records
import SqlBuilder.Proofs.Insertion.Redeclaration

/-!
# Rows as wide as their columns

What an insert writes is a `Insertion.Grid`: columns with rows below them, and in every row one
item for each column. The rule counts operands, and not every operand is one item of the text: SQL
of the caller without text is left out, and a mapping among the columns is written as one item for
each of its entries (`Query.insertion_shifted`). Where no operand is of this kind, each item stands
below its own column (`Query.insertion_widths`).
-/

namespace SqlBuilder

namespace Insertion

open Fragment (emitted)

/-- Columns with rows below them: every row has one item for each column. -/
structure Grid where
  columns : List Fragment
  rows : List (List Fragment)
  width : ∀ row ∈ rows, row.length = columns.length

namespace Grid

/-- What is written of a grid: items without text are left out. -/
def text (g : Grid) : Fragment := layout (emitted g.columns) (g.rows.map emitted)

/-- All items of a grid have some text. -/
structure Spoken (g : Grid) : Prop where
  columns : ∀ item ∈ g.columns, item.isEmpty = false
  rows : ∀ row ∈ g.rows, ∀ item ∈ row, item.isEmpty = false

theorem Spoken.text_eq {g : Grid} (h : g.Spoken) : g.text = layout g.columns g.rows := by
  have rows : g.rows.map emitted = g.rows :=
    (List.map_congr_left fun row hrow => Fragment.emitted_eq_self (h.rows row hrow)).trans
      (List.map_id _)
  rw [text, Fragment.emitted_eq_self h.columns, rows]

/-- The grid that the calls give: the keys of mappings with what each mapping holds in them, or the
columns that were declared last with the values of all rows. -/
inductive Given (config : Config) (log : Log Term) : Grid → Prop
  | records {mappings : List (Record Term)} {columns : List String} {rows : List (List Fragment)}
    {width} (undeclared : log.operandsOf .columns = [])
    (given : log.allOperands .rows = mappings.map .record)
    (identifiers : ∀ column ∈ columns, (Ident.checked column).isOk)
    (tabulates : Tabulates config.inputKey mappings columns rows) :
    Given config log ⟨columns.map Fragment.ofSql, rows, width⟩
  | positional {columns : List Term} {items : List Fragment} {rows : List (List Fragment)} {width}
    (last : columns ∈ (log.operandsOf .columns).getLast?)
    (columns : columns.mapM Term.item = .ok items)
    (values : ((log.operandsOf .rows).mapM fun values => values.mapM Term.operand) = .ok rows) :
    Given config log ⟨items, rows, width⟩

end Grid

/-- No declared column is a mapping, and no column and no value is SQL without text. -/
structure Spelled (log : Log Term) : Prop where
  columns : ∀ t ∈ log.allOperands .columns, t.entries? = none ∧ ¬ t.Blank
  values : ∀ t ∈ log.allOperands .rows, ¬ t.Blank
  entries : ∀ r, .record r ∈ log.allOperands .rows → ∀ e ∈ r.entries, ¬ e.2.Blank

variable {config : Config} {log : Log Term}

/-! ### Rows of values -/

/-- What has been read could be written. -/
theorem writable_of_step {p p' : Positional} {call : Call Term} (h : p.step call = .ok p') :
    Writable call := by
  refine ⟨fun declares => ?_, fun gives => ?_⟩
  · simp only [Positional.step, declares, Positional.declare] at h
    cases names : Term.list call.operands with
    | ok names => rfl
    | error e =>
      rw [names] at h
      cases h
  · simp only [Positional.step, gives, Positional.addRow] at h
    cases row : call.operands.mapM Term.operand with
    | ok row => rfl
    | error e =>
      rw [row] at h
      split at h
      · cases h
      · split_ifs at h
        cases h

theorem writable_of_read {p p' : Positional} (h : log.foldlM Positional.step p = .ok p') :
    ∀ call ∈ log, Writable call := by
  induction log generalizing p with
  | nil => exact nofun
  | cons call log ih =>
    rw [List.foldlM_cons] at h
    cases hstep : p.step call with
    | error e =>
      rw [hstep] at h
      cases h
    | ok next =>
      rw [hstep] at h
      exact List.forall_mem_cons.2 ⟨writable_of_step hstep, ih h⟩

/-- A grid of values is written. -/
theorem Reads.ensures_text {p : Positional} (h : Reads log p) (legible : Legible log) :
    Ensures p.text fun body => ∃ g : Grid, g.Given config log ∧ body = g.text := by
  by_cases given : log.operandsOf .rows = []
  · obtain ⟨fault, refused⟩ := h.text_refused given
    rw [refused]
    exact .error _
  · obtain ⟨columns, names, texts, last, hnames, htexts, written⟩ := h.text_eq legible given
    obtain ⟨items, hitems, rfl⟩ := map_eq_ok hnames
    change ((log.operandsOf .rows).mapM fun values =>
      (values.mapM Term.operand).map tuple) = .ok texts at htexts
    rw [mapM_map_eq] at htexts
    obtain ⟨rows, hrows, rfl⟩ := map_eq_ok htexts
    have width : ∀ row ∈ rows, row.length = items.length := by
      intro row hrow
      obtain ⟨values, hvalues, written⟩ := exists_of_mem_right (mapM_eq_ok_iff.1 hrows) hrow
      rw [← (mapM_eq_ok_iff.1 written).length_eq, ← (mapM_eq_ok_iff.1 hitems).length_eq]
      exact legible.width columns (List.mem_of_getLast? last) values hvalues
    rw [written]
    refine .ok ⟨⟨items, rows, width⟩, .positional last hitems hrows, ?_⟩
    rw [join_tuples]
    rfl

theorem ensures_ofPositional (config : Config) (log : Log Term) :
    Ensures (ofPositional log) fun body => ∃ g : Grid, g.Given config log ∧ body = g.text := by
  intro body hbody
  rw [ofPositional] at hbody
  cases hfold : log.foldlM Positional.step ⟨none, []⟩ with
  | error e =>
    rw [hfold] at hbody
    cases hbody
  | ok p =>
    rw [hfold] at hbody
    have reading := read (writable_of_read hfold)
    rw [hfold] at reading
    cases reading with
    | read legible reads => exact reads.ensures_text legible body hbody

/-! ### Rows of mappings -/

theorem isEmpty_ofSql_column {column : String} (h : (Ident.checked column).isOk) :
    (Fragment.ofSql column).isEmpty = false := by
  refine Fragment.isEmpty_of_ne_nil fun none => ?_
  rw [Fragment.symbols_ofSql, List.map_eq_nil_iff, String.toList_eq_nil_iff] at none
  subst none
  cases h

theorem identifiers_of_rowsOf {mappings : List (Record Term)}
    (valid : (rowsOf config (mappings.map .record)).isOk) :
    ∀ column ∈ (mappings.flatMap fun r => r.keys.map config.inputKey).eraseDups,
      (Ident.checked column).isOk := by
  intro column hcolumn
  have key := ((firstSeen_eraseDups _).mem_iff column).1 hcolumn
  obtain ⟨r, hr, hcolumn⟩ := List.mem_flatMap.1 key
  obtain ⟨k, hk, rfl⟩ := List.mem_map.1 hcolumn
  obtain ⟨e, he, rfl⟩ := List.mem_map.1 hk
  exact (isOk_rowsOf_iff mappings).1 valid r hr e he

/-- Mappings are written as a grid, but for a single one without keys. -/
theorem ensures_ofRows {mappings : List (Record Term)} {rows : List Row}
    (undeclared : log.operandsOf .columns = [])
    (given : log.allOperands .rows = mappings.map .record)
    (hrows : rowsOf config (mappings.map .record) = .ok rows) :
    Ensures (ofRows rows) fun body =>
      (body = Fragment.ofSql "default values" ∧ ∃ r, mappings = [r] ∧ r.entries = []) ∨
        ∃ g : Grid, g.Given config log ∧ body = g.text := by
  obtain rfl := ensures_rowsOf mappings rows hrows
  have identifiers := identifiers_of_rowsOf (isOk_iff.2 ⟨_, hrows⟩)
  have seen := firstSeen_eraseDups (mappings.flatMap fun r => r.keys.map config.inputKey)
  rw [ofRows_mapped]
  generalize (mappings.flatMap fun r => r.keys.map config.inputKey).eraseDups = columns
    at identifiers seen
  simp only
  split_ifs with none unkeyed single
  · exact .error _
  · obtain ⟨r, rfl⟩ := List.length_eq_one_iff.1 single
    refine .ok (.inl ⟨rfl, r, rfl, ?_⟩)
    cases entries : r.entries with
    | nil => rfl
    | cons e rest =>
      have column : config.inputKey e.1 ∈ columns :=
        (seen.mem_iff _).2 (by simp [Record.keys, entries])
      rw [List.isEmpty_iff.1 unkeyed] at column
      cases column
  · exact .error _
  · refine (ensures_cells config.inputKey mappings columns).map fun rows supplied => .inr ?_
    have width : ∀ row ∈ rows, row.length = (columns.map Fragment.ofSql).length := by
      intro row hrow
      obtain ⟨r, -, items⟩ := exists_of_mem_right supplied hrow
      rw [List.length_map, items.length_eq]
    refine ⟨⟨_, rows, width⟩, .records undeclared given identifiers ⟨seen, supplied⟩, ?_⟩
    rw [Grid.text, Fragment.emitted_eq_self]
    exact List.forall_mem_map.2 fun column hcolumn =>
      isEmpty_ofSql_column (identifiers column hcolumn)

theorem eq_map_record {ts : List Term} (h : ts.all Term.isRecord) :
    ∃ mappings : List (Record Term), ts = mappings.map .record := by
  induction ts with
  | nil => exact ⟨[], rfl⟩
  | cons t ts ih =>
    rw [List.all_cons, Bool.and_eq_true] at h
    obtain ⟨mappings, rfl⟩ := ih h.2
    cases t with
    | record r => exact ⟨r :: mappings, rfl⟩
    | _ => cases h.1

/-- What an insert writes behind its target. -/
theorem ensures_list (config : Config) (log : Log Term) : Ensures (list config log) fun body =>
    (body = Fragment.ofSql "default values" ∧
      ∃ r, log.allOperands .rows = [.record r] ∧ r.entries = []) ∨
      ∃ g : Grid, g.Given config log ∧ body = g.text := by
  rw [list]
  cases hforms : (log.operandsOf .rows).mapM rowForm with
  | error e => exact .error e
  | ok forms =>
    simp only [bind, Except.bind]
    split_ifs with positional mixed
    · exact (ensures_ofPositional config log).mono fun _ => .inr
    · exact .error _
    · rw [Bool.not_eq_true, Bool.or_eq_false_iff] at mixed
      have undeclared := Log.uses_eq_false_iff.1 mixed.2
      obtain ⟨mappings, given⟩ := eq_map_record (isRecord_of_forms hforms mixed.1)
      change log.allOperands .rows = _ at given
      rw [given]
      cases hrows : rowsOf config (mappings.map .record) with
      | error e => exact .error e
      | ok rows =>
        refine (ensures_ofRows undeclared given hrows).mono fun body written => ?_
        rcases written with ⟨same, r, rfl, keyless⟩ | grid
        · exact .inl ⟨same, r, rfl, keyless⟩
        · exact .inr grid

/-! ### Items with some text -/

theorem spoken_operand {t : Term} (formed : t.Formed) (spelled : ¬ t.Blank) :
    Ensures t.operand fun item => item.isEmpty = false :=
  formed.operand.mono fun _ hitem =>
    Fragment.isEmpty_of_ne_nil fun none => spelled (hitem.blank.1 none)

theorem spoken_item {t : Term} (formed : t.Formed) (single : t.entries? = none)
    (spelled : ¬ t.Blank) : Ensures t.item fun item => item.isEmpty = false := by
  rw [Term.item, single]
  exact spoken_operand formed spelled

theorem not_blank {t : Term} (h : t.operand.toOption.any fun item => !item.isEmpty) :
    ¬ t.Blank := by
  rintro (rfl | rfl)
  · cases h
  · cases h

/-- Where every operand is one item with some text, all items have some. -/
theorem Grid.Given.spoken {g : Grid} (h : g.Given config log) (formed : log.Every Term.Formed)
    (spelled : Spelled log) : g.Spoken := by
  cases h with
  | @records mappings columns rows _ undeclared given identifiers tabulates =>
    refine ⟨?_, fun row hrow item hitem => ?_⟩
    · exact List.forall_mem_map.2 fun column hcolumn =>
        isEmpty_ofSql_column (identifiers column hcolumn)
    · obtain ⟨r, hr, supplied⟩ := exists_of_mem_right tabulates.supplied hrow
      obtain ⟨column, -, supplies⟩ := exists_of_mem_right supplied hitem
      have row : .record r ∈ log.allOperands .rows := given ▸ List.mem_map_of_mem hr
      refine supplies.isEmpty_eq fun e he => ?_
      exact spoken_operand ((formed.allOperands .rows _ row).entries? rfl e he)
        (spelled.entries r row e he)
  | @positional columns items rows _ last hitems values =>
    refine ⟨Ensures.mapM_forall (fun t ht => ?_) items hitems, Ensures.mapM_forall
      (fun ts hts => Ensures.mapM_forall fun t ht => ?_) rows values⟩
    · have column := List.mem_flatten.2 ⟨columns, List.mem_of_getLast? last, ht⟩
      have single := spelled.columns t column
      exact spoken_item (formed.allOperands .columns t column) single.1 single.2
    · have value := List.mem_flatten.2 ⟨ts, hts, ht⟩
      exact spoken_operand (formed.allOperands .rows t value) (spelled.values t value)

/-! ### Rows that are refused -/

/-- If the computation fails, columns and rows do not go together. -/
abbrev Mismatches {α : Type} (x : Except Error α) : Prop :=
  FailsWith (fun e => ∃ fault, e = .arity fault) x

theorem mismatches_ofRows {key : String → String} {mappings : List (Record Term)}
    (written : ∀ r ∈ mappings, ∀ e ∈ r.entries, e.2.operand.isOk) :
    Mismatches (ofRows (mappings.map (mappedRow key))) := by
  rw [ofRows_mapped]
  simp only
  split_ifs
  · exact .error ⟨_, rfl⟩
  · exact .ok _
  · exact .error ⟨_, rfl⟩
  · refine FailsWith.map (FailsWith.mapM fun r hr => FailsWith.mapM fun column _ => ?_) _
    obtain ⟨item, hitem⟩ := isOk_iff.1 (isOk_cell (written r hr) column)
    rw [hitem]
    exact .ok item

/-- Where all parts can be written, an insert is refused only for its columns and rows. -/
theorem mismatches_list {target : Term} (h : log.Insertable config target) :
    Mismatches (list config log) := by
  have rowForms : Mismatches ((log.operandsOf .rows).mapM rowForm) := by
    refine .mapM fun ts _ => ?_
    unfold rowForm
    split_ifs
    · exact .ok _
    · exact .error ⟨_, rfl⟩
    · exact .ok _
  refine rowForms.bind fun forms hforms => ?_
  split_ifs with positional mixed
  · have values := values_of_forms hforms positional
    rcases ofPositional_cases (h.writable values) with ⟨-, text, written⟩ | ⟨-, fault, refused⟩
    · rw [written]
      exact .ok text
    · rw [refused]
      exact .error ⟨fault, rfl⟩
  · exact .error ⟨_, rfl⟩
  · rw [Bool.not_eq_true, Bool.or_eq_false_iff] at mixed
    obtain ⟨mappings, given⟩ := eq_map_record (isRecord_of_forms hforms mixed.1)
    change log.allOperands .rows = _ at given
    have fits : ∀ r ∈ mappings, ∀ e ∈ r.entries,
        (config.column e.1).isOk ∧ e.2.operand.isOk :=
      fun r hr => h.rows (.record r) (given ▸ List.mem_map_of_mem hr)
    rw [given, rowsOf_eq fun r hr e he => (fits r hr e he).1]
    exact mismatches_ofRows fun r hr e he => (fits r hr e he).2

end Insertion

namespace Log

/-- The parts of a compiled insert. -/
theorem ensures_insertion (config : Config) (log : Log Term) :
    Ensures (log.insertion config) fun text => ∃ target name body,
      Source.ofLog log = [.table target] ∧ target.item = .ok name ∧
        Insertion.list config log = .ok body ∧
        text = (Fragment.headed "insert into" name).push " " ++ body := by
  refine (Source.ensures_splitTarget _).bind fun (target, others) split => ?_
  simp only
  split_ifs with several
  · exact .error _
  · have single : others = [] := by simpa using several
    cases hname : target.item with
    | error e => exact .error e
    | ok name =>
      cases hbody : Insertion.list config log with
      | error e => exact .error e
      | ok body => exact .ok ⟨target, name, body, single ▸ split, hname, rfl, rfl⟩

theorem ensures_statement_insert (config : Config) (log : Log Term) :
    Ensures (statement config log) fun result => result.1 = .insert →
      ∃ before text after, log.Framed before after ∧ log.insertion config = .ok text ∧
        result.2 = Fragment.join [before, text, after] " " := by
  refine .bind_any fun kind => ?_
  split
  · exact .error _
  · rename_i targeted
    by_cases insert : kind = .insert
    · subst insert
      have target : log.target?.isSome := by
        simpa [StatementKind.needsTarget, Option.isSome_iff_ne_none] using targeted
      intro result hresult _
      cases hsections : StatementKind.insert.sections.mapM (Section.text config log) with
      | error e =>
        rw [hsections] at hresult
        cases hresult
      | ok texts =>
        rw [hsections] at hresult
        cases hresult
        obtain _ | ⟨before, _ | ⟨text, _ | ⟨after, ⟨⟩⟩⟩⟩ := mapM_eq_ok_iff.1 hsections
        exact ⟨_, _, _, ⟨target, before, after⟩, text, rfl⟩
    · exact .bind_any fun texts => .ok fun same => absurd same insert

end Log

namespace Query

open Insertion

/-- An insert that compiles writes the default values of a single mapping without entries, or a
grid: every row has one item for each column, and where no column is a mapping and nothing is SQL
without text, all of these items are written. Where all parts can be written, an insert that does
not compile is refused for its columns and rows. -/
theorem insertion_widths (q : Query Operand) :
    (∀ c, q.compile = .ok c → c.kind = .insert →
      ∃ target name before body after, Source.ofLog q.terms = [.table target] ∧
        target.item = .ok name ∧ q.terms.Framed before after ∧
        c.statement = (Fragment.join [before, (Fragment.headed "insert into" name).push " " ++ body,
          after] " ").toStatement ∧
        ((body = Fragment.ofSql "default values" ∧
          ∃ r, q.terms.allOperands .rows = [.record r] ∧ r.entries = []) ∨
        ∃ g : Grid, g.Given q.config q.terms ∧ body = g.text ∧
          (Spelled q.terms → body = layout g.columns g.rows))) ∧
    ∀ target before after, q.terms.Insertable q.config target → q.terms.Framed before after →
      FailsWith (fun e => ∃ fault, e = .arity fault) q.compile := by
  refine ⟨fun c compiled insert => ?_, fun target before after h framed => ?_⟩
  · rw [compile, statement_eq_map] at compiled
    obtain ⟨result, hresult, rfl⟩ := map_eq_ok compiled
    obtain ⟨before, text, after, framed, htext, written⟩ :=
      Log.ensures_statement_insert q.config _ result hresult insert
    obtain ⟨target, name, body, source, hname, hbody, rfl⟩ :=
      Log.ensures_insertion q.config _ text htext
    refine ⟨target, name, before, body, after, source, hname, framed,
      congrArg Fragment.toStatement written, ?_⟩
    rcases ensures_list q.config _ body hbody with defaults | ⟨g, given, text⟩
    · exact .inl defaults
    · exact .inr ⟨g, given, text, fun spelled =>
        text.trans (given.spoken q.formed_terms spelled).text_eq⟩
  · rcases q.terms.statementKind_cases with
      ⟨-, mixed⟩ | ⟨⟨fault, refused⟩, -⟩ | ⟨kind, hkind, suits, -⟩
    · exact absurd h.suits (mixed .insert)
    · rw [compile, statement_eq_map, ← terms, Log.statement, refused]
      exact .error ⟨fault, rfl⟩
    · obtain rfl := suits.unique h.suits
      obtain ⟨name, hname⟩ := isOk_iff.1 h.target
      rw [compile_of_framed hkind framed, h.insertion_eq hname]
      exact ((mismatches_list h).map _).map _

/-- The guests are written with two columns and two values for each of them. -/
theorem insertion_widths_guests :
    let q := guests
    Spelled q.terms ∧ ∃ c, q.compile = .ok c ∧ c.kind = .insert ∧
      ∃ g : Grid, g.Given q.config q.terms ∧ g.text = layout g.columns g.rows := by
  intro q
  have column : ∀ t ∈ q.terms.allOperands .columns,
      t.entries?.isNone ∧ t.operand.toOption.any fun item => !item.isEmpty := by
    decide +kernel
  have value : ∀ t ∈ q.terms.allOperands .rows,
      t.isRecord = false ∧ t.operand.toOption.any fun item => !item.isEmpty := by
    decide +kernel
  have spelled : Spelled q.terms := by
    refine ⟨fun t ht => ?_, fun t ht => not_blank (value t ht).2, fun r hr => ?_⟩
    · exact ⟨Option.isNone_iff_eq_none.1 (column t ht).1, not_blank (column t ht).2⟩
    · cases (value _ hr).1
  obtain ⟨c, compiled, insert⟩ : ∃ c, q.compile = .ok c ∧ c.kind = .insert := ⟨_, rfl, rfl⟩
  obtain ⟨_, _, _, body, _, _, _, _, _, written⟩ := (insertion_widths q).1 c compiled insert
  refine ⟨spelled, c, compiled, insert, ?_⟩
  rcases written with ⟨-, r, single, -⟩ | ⟨g, given, text, full⟩
  · cases single
  · exact ⟨g, given, text.symm.trans (full spelled)⟩

/-- SQL without text is no value of the row that is written, and a mapping is more than one of the
columns, though each of them is counted as one. -/
theorem insertion_shifted :
    let q := ((Query.new Config.default).table "t").columns ["a", "b"] |>.values
      [.raw "", .value (.int 1)]
    let q' := ((Query.new Config.default).table "t").columns
      [.record ⟨[("x", .raw "a"), ("y", .raw "b")]⟩] |>.values [.value (.int 1)]
    (∃ c, q.compile = .ok c ∧ c.kind = .insert ∧
      c.statement = ⟨"insert into t (a, b) values ($1)", [.int 1]⟩) ∧
    ∃ c, q'.compile = .ok c ∧ c.kind = .insert ∧
      c.statement = ⟨"insert into t (a as x, b as y) values ($1)", [.int 1]⟩ :=
  ⟨⟨_, rfl, rfl, rfl⟩, _, rfl, rfl, rfl⟩

end Query

end SqlBuilder
