import SqlBuilder.Proofs.Execution
import SqlBuilder.Proofs.Record

/-!
# Rows as JSON

A row becomes a JSON object only as a whole: the first column whose cell cannot be decoded fails
the row, under the name that the column has in the result (`Row.FailsAt`). The object has the
mapped names of the columns for keys, each at its first appearance, and under each of them the cell
of the last column of that name (`Row.Presents`). Rows are decoded in order, and the first one that
fails decides (`Query.rows_decoded`).
-/

namespace SqlBuilder

namespace Row

variable {row : Row} {i : Nat} {column : Column}

/-! ### Cells -/

/-- What a cell says: NULL is `null`, and bytes are what the decoder of the column type reads. -/
inductive Reads (row : Row) (i : Nat) (column : Column) : Json → Prop
  | null {decoder : CellDecoder Json} (known : CellDecoder.toJson? column.type = some decoder)
    (cell : row.cells[i]? = some none) : Reads row i column .null
  | value {decoder : CellDecoder Json} {bytes : List UInt8} {json : Json}
    (known : CellDecoder.toJson? column.type = some decoder)
    (cell : row.cells[i]? = some (some bytes))
    (decoded : decoder.decode column.type bytes = some json) : Reads row i column json

/-- Why a cell says nothing: its column has a type without a decoder, or it is malformed. -/
def fault (i : Nat) (column : Column) : DecodeFault :=
  if (CellDecoder.toJson? column.type).isSome then .cell i else .unsupportedType column.type

/-- The decoder of a column type accepts it. -/
theorem accepts_of_toJson? {type : SqlType} {decoder : CellDecoder Json}
    (known : CellDecoder.toJson? type = some decoder) : decoder.accepts type := by
  cases type with
  | unknown | bytea | builtin | extension => cases known
  | _ =>
    cases known
    rfl

theorem cell?_of_accepts {α : Type} {decoder : CellDecoder α}
    (position : row.columns[i]? = some column) (accepts : decoder.accepts column.type) :
    row.cell? decoder i =
      match row.cells[i]? with
      | none => .error (.cell i)
      | some none => .ok none
      | some (some bytes) =>
        (decoder.decode column.type bytes).elim (.error (.cell i)) (.ok ∘ some) := by
  unfold cell?
  rw [position]
  cases row.cells[i]? with
  | none => rfl
  | some cell =>
    cases cell with
    | none => simp [accepts]
    | some bytes =>
      simp only [accepts, if_true]
      cases decoder.decode column.type bytes <;> rfl

/-- A cell says something, or it is an error under the name of its column. -/
theorem cellJson_cases (position : row.columns[i]? = some column) :
    (∃ json, row.cellJson i column = .ok json ∧ row.Reads i column json) ∨
    row.cellJson i column = .error (.decode column.name (fault i column)) ∧
      ¬ ∃ json, row.Reads i column json := by
  -- The cases are those of the decoder: the type of the column, the cell, its bytes. A reading
  -- fixes all three, so it cannot be there in a case that fails.
  unfold cellJson fault
  cases known : CellDecoder.toJson? column.type with
  | none =>
    refine .inr ⟨rfl, ?_⟩
    rintro ⟨json, ⟨known', -⟩ | ⟨known', -, -⟩⟩
    · cases known.symm.trans known'
    · cases known.symm.trans known'
  | some decoder =>
    simp only
    rw [cell?_of_accepts position (accepts_of_toJson? known)]
    cases cell : row.cells[i]? with
    | none =>
      refine .inr ⟨rfl, ?_⟩
      rintro ⟨json, ⟨-, cell'⟩ | ⟨-, cell', -⟩⟩
      · cases cell.symm.trans cell'
      · cases cell.symm.trans cell'
    | some content =>
      cases content with
      | none => exact .inl ⟨.null, rfl, .null known cell⟩
      | some bytes =>
        simp only
        cases decoded : decoder.decode column.type bytes with
        | some json => exact .inl ⟨json, rfl, .value known cell decoded⟩
        | none =>
          refine .inr ⟨rfl, ?_⟩
          rintro ⟨json, ⟨-, cell'⟩ | ⟨known', cell', decoded'⟩⟩
          · cases cell.symm.trans cell'
          · cases known.symm.trans known'
            cases cell.symm.trans cell'
            cases decoded.symm.trans decoded'

theorem isOk_cellJson_iff (position : row.columns[i]? = some column) :
    (row.cellJson i column).isOk ↔ ∃ json, row.Reads i column json := by
  rcases cellJson_cases position with ⟨json, ok, reads⟩ | ⟨failed, silent⟩
  · rw [ok]
    exact iff_of_true rfl ⟨json, reads⟩
  · rw [failed]
    exact iff_of_false nofun silent

theorem reads_of_cellJson {json : Json} (position : row.columns[i]? = some column)
    (ok : row.cellJson i column = .ok json) : row.Reads i column json := by
  rcases cellJson_cases position with ⟨json', ok', reads⟩ | ⟨failed, -⟩
  · cases ok.symm.trans ok'
    exact reads
  · cases ok.symm.trans failed

theorem cellJson_of_decode {decoder : CellDecoder Json} {bytes : List UInt8} {json : Json}
    (position : row.columns[i]? = some column)
    (known : CellDecoder.toJson? column.type = some decoder)
    (cell : row.cells[i]? = some (some bytes))
    (decoded : decoder.decode column.type bytes = some json) :
    row.cellJson i column = .ok json := by
  unfold cellJson
  rw [known]
  simp only
  rw [cell?_of_accepts position (accepts_of_toJson? known), cell]
  simp only [decoded]
  rfl

/-! ### Rows -/

/-- Every cell says something. -/
def Decodes (row : Row) : Prop :=
  ∀ (i : Nat) (column : Column), row.columns[i]? = some column → ∃ json, row.Reads i column json

/-- The column is the first whose cell says nothing. -/
structure FailsAt (row : Row) (i : Nat) (column : Column) : Prop where
  position : row.columns[i]? = some column
  silent : ¬ ∃ json, row.Reads i column json
  first : ∀ (j : Nat) (earlier : Column), j < i → row.columns[j]? = some earlier →
    ∃ json, row.Reads j earlier json

/-- A row as an object: the mapped names of the columns in the order of their first appearance, and
under each of them what the last column of this name says. -/
structure Presents (key : String → String) (row : Row) (object : Record Json) : Prop where
  keys : object.keys = (row.columns.map fun column => key column.name).eraseDups
  last : ∀ (i : Nat) (column : Column), row.columns[i]? = some column →
    (∀ (j : Nat) (later : Column), i < j → row.columns[j]? = some later →
      key later.name ≠ key column.name) →
    ∃ json, row.Reads i column json ∧ object.get? (key column.name) = some json
  each : (row.columns.map fun column => key column.name).Nodup →
    List.Forall₂ (fun entry column => entry.1 = key column.1.name ∧
      row.Reads column.2 column.1 entry.2) object.entries row.columns.zipIdx

/-- A column with its cell under the mapped name. -/
def member (config : Config) (row : Row) (column : Column × Nat) : Except Error (String × Json) :=
  (row.cellJson column.2 column.1).map (config.outputKey column.1.name, ·)

theorem toJson_eq (config : Config) (row : Row) :
    row.toJson config = (row.columns.zipIdx.mapM (row.member config)).map Record.ofList := by
  have traversal : row.toJson config =
      row.columns.zipIdx.mapM (row.member config) >>= fun members =>
        return Record.ofList members := rfl
  rw [traversal]
  cases row.columns.zipIdx.mapM (row.member config) <;> rfl

theorem zipIdx_columns_iff {entry : Column × Nat} :
    row.columns.zipIdx[i]? = some entry ↔ row.columns[i]? = some entry.1 ∧ entry.2 = i := by
  rw [List.getElem?_zipIdx, Option.map_eq_some_iff]
  constructor
  · rintro ⟨column, position, rfl⟩
    exact ⟨position, Nat.zero_add i⟩
  · rintro ⟨position, rfl⟩
    exact ⟨entry.1, position, congrArg (entry.1, ·) (Nat.zero_add entry.2)⟩

theorem isOk_member_iff {config : Config} (position : row.columns[i]? = some column) :
    (row.member config (column, i)).isOk ↔ ∃ json, row.Reads i column json := by
  rw [member, isOk_map]
  exact isOk_cellJson_iff position

/-- A row fails exactly at its first column that cannot be decoded. -/
theorem toJson_eq_error_iff {config : Config} {e : Error} :
    row.toJson config = .error e ↔
      ∃ i column, row.FailsAt i column ∧ e = .decode column.name (fault i column) := by
  have whole : row.toJson config = .error e ↔
      row.columns.zipIdx.mapM (row.member config) = .error e := by
    rw [toJson_eq]
    cases row.columns.zipIdx.mapM (row.member config) <;> simp [Except.map]
  rw [whole, mapM_eq_error_iff]
  constructor
  · rintro ⟨i, ⟨column, k⟩, position, failed, before⟩
    obtain ⟨position, rfl⟩ := zipIdx_columns_iff.1 position
    rcases cellJson_cases position with ⟨json, ok, -⟩ | ⟨failed', silent⟩
    · rw [member, ok] at failed
      cases failed
    · rw [member, failed'] at failed
      cases failed
      refine ⟨k, column, ⟨position, silent, ?_⟩, rfl⟩
      intro j earlier less hj
      exact (isOk_member_iff hj).1 (before j (earlier, j) less (zipIdx_columns_iff.2 ⟨hj, rfl⟩))
  · rintro ⟨i, column, fails, rfl⟩
    refine ⟨i, (column, i), zipIdx_columns_iff.2 ⟨fails.position, rfl⟩, ?_, ?_⟩
    · rcases cellJson_cases fails.position with ⟨json, -, reads⟩ | ⟨failed, -⟩
      · exact absurd ⟨json, reads⟩ fails.silent
      · rw [member, failed]
        rfl
    · rintro j ⟨earlier, k⟩ less hj
      obtain ⟨position, rfl⟩ := zipIdx_columns_iff.1 hj
      exact (isOk_member_iff position).2 (fails.first k earlier less position)

theorem isOk_toJson_iff (config : Config) : (row.toJson config).isOk ↔ row.Decodes := by
  rw [toJson_eq, isOk_map, isOk_mapM_iff]
  constructor
  · intro ok i column position
    exact (isOk_member_iff position).1
      (ok (column, i) (List.mem_of_getElem? (zipIdx_columns_iff.2 ⟨position, rfl⟩)))
  · rintro decodes ⟨column, k⟩ hcolumn
    obtain ⟨i, position⟩ := List.mem_iff_getElem?.1 hcolumn
    obtain ⟨position, rfl⟩ := zipIdx_columns_iff.1 position
    exact (isOk_member_iff position).2 (decodes k column position)

/-- The object of a row that decodes. -/
theorem presents_of_toJson {config : Config} {object : Record Json}
    (ok : row.toJson config = .ok object) : row.Presents config.outputKey object := by
  rw [toJson_eq] at ok
  obtain ⟨members, read, rfl⟩ := map_eq_ok ok
  have positions : ∀ column ∈ row.columns.zipIdx, row.columns[column.2]? = some column.1 :=
    fun column => List.mk_mem_zipIdx_iff_getElem?.1
  have paired : List.Forall₂ (fun column entry => entry.1 = config.outputKey column.1.name ∧
      row.Reads column.2 column.1 entry.2) row.columns.zipIdx members := by
    have both := (List.forall₂_and_left _ _).2 ⟨positions, mapM_eq_ok_iff.1 read⟩
    refine both.imp fun column entry ⟨position, ok⟩ => ?_
    obtain ⟨json, shown, rfl⟩ := map_eq_ok ok
    exact ⟨rfl, reads_of_cellJson position shown⟩
  have names : members.map Prod.fst =
      row.columns.map fun column => config.outputKey column.name := by
    have columns : row.columns = row.columns.zipIdx.map Prod.fst := (List.zipIdx_map_fst 0 _).symm
    conv_rhs => rw [columns, List.map_map]
    rw [map_eq_iff_forall₂]
    exact List.Forall₂.flip (paired.imp fun column entry h => h.1)
  refine ⟨?_, ?_, ?_⟩
  · rw [Record.keys_ofList, names]
  · intro i column position only
    have numbered : row.columns.zipIdx[i]? = some (column, i) :=
      zipIdx_columns_iff.2 ⟨position, rfl⟩
    obtain ⟨entry, hentry, named, reads⟩ := getElem?_of_forall₂ paired numbered
    refine ⟨entry.2, reads, ?_⟩
    rw [← named]
    -- A later entry under this key would belong to a later column of the same name.
    apply Record.get?_ofList_of_last hentry
    intro j later less hlater
    have mapped : (members.map Prod.fst)[j]? = some later.1 := by
      rw [List.getElem?_map, hlater]
      rfl
    rw [names, List.getElem?_map, Option.map_eq_some_iff] at mapped
    obtain ⟨column', position', same⟩ := mapped
    rw [← same, named]
    exact only j column' less position'
  · intro nodup
    rw [Record.entries_ofList (names ▸ nodup)]
    exact List.Forall₂.flip paired

end Row

namespace Query

open Executable

/-- The JSON rows of a query are its rows as objects, in order, if every cell of every row can be
decoded; otherwise the first column of the first row for which this fails is the error, under its
name in the result, and there are no rows at all. -/
theorem rows_decoded {client : Client} {q : Query Operand} {rows : List Row}
    (answered : (fetchAll client q).result = .ok rows) :
    let result := (q.fetchAllJson client).result
    (result.isOk ↔ ∀ row ∈ rows, row.Decodes) ∧
    (∀ e, result = .error e ↔ ∃ (k : Nat) (row : Row) (i : Nat) (column : Column),
      rows[k]? = some row ∧ row.FailsAt i column ∧
      (∀ (j : Nat) (earlier : Row), j < k → rows[j]? = some earlier → earlier.Decodes) ∧
      e = .decode column.name (Row.fault i column)) ∧
    ∀ objects, result = .ok objects →
      List.Forall₂ (Row.Presents q.config.outputKey) rows objects := by
  intro result
  have traversal : result = rows.mapM (Row.toJson q.config) := by
    change (fetchAll client q >>= fun rows =>
      Run.ofResult (rows.mapM (Row.toJson q.config))).result = _
    rw [Run.result_bind, answered]
    rfl
  rw [traversal]
  refine ⟨?_, fun e => ?_, fun objects ok => ?_⟩
  · rw [isOk_mapM_iff]
    exact forall₂_congr fun row _ => Row.isOk_toJson_iff q.config
  · rw [mapM_eq_error_iff]
    simp only [Row.toJson_eq_error_iff, Row.isOk_toJson_iff]
    constructor
    · rintro ⟨k, row, position, ⟨i, column, fails, same⟩, before⟩
      exact ⟨k, row, i, column, position, fails, before, same⟩
    · rintro ⟨k, row, i, column, position, fails, before, same⟩
      exact ⟨k, row, position, ⟨i, column, fails, same⟩, before⟩
  · exact (mapM_eq_ok_iff.1 ok).imp fun row object => Row.presents_of_toJson

/-- All columns of all people. -/
def allPeople : Query Operand := (Query.new Config.default).table "people"

/-- A row of two columns whose names are mapped to the same key. -/
def personRow (name : List UInt8) (age : List UInt8) : Row :=
  ⟨[⟨"first_name", .text⟩, ⟨"firstName", .int4⟩], [some name, some age]⟩

/-- Of two columns for one key the later one is in the object, and a row with a cell that is too
short fails all rows. -/
theorem rows_decoded_people :
    let answering (rows : List Row) : Client := .answering (fun _ => .ok rows) fun _ => .ok 0
    let ann := personRow [65, 110, 110] [0, 0, 0, 40]
    let bob := personRow [66, 111, 98] [41]
    let object : Record Json := ⟨[("firstName", .int 40)]⟩
    (fetchAll (answering [ann, ann]) allPeople).result = .ok [ann, ann] ∧
    (allPeople.fetchAllJson (answering [ann, ann])).result = .ok [object, object] ∧
    List.Forall₂ (Row.Presents allPeople.config.outputKey) [ann, ann] [object, object] ∧
    (fetchAll (answering [ann, bob, ann]) allPeople).result = .ok [ann, bob, ann] ∧
    (∃ (k : Nat) (row : Row) (i : Nat) (column : Column),
      [ann, bob, ann][k]? = some row ∧ row.FailsAt i column ∧
      (allPeople.fetchAllJson (answering [ann, bob, ann])).result =
        .error (.decode column.name (Row.fault i column))) := by
  intro answering ann bob object
  have answered : (fetchAll (answering [ann, ann]) allPeople).result = .ok [ann, ann] := rfl
  have answered' : (fetchAll (answering [ann, bob, ann]) allPeople).result =
      .ok [ann, bob, ann] := rfl
  have keys : Config.default.outputKey "first_name" = "firstName" ∧
      Config.default.outputKey "firstName" = "firstName" := by decide +kernel
  obtain ⟨name, first⟩ : ∃ name, ann.cellJson 0 ⟨"first_name", .text⟩ = .ok name := ⟨_, rfl⟩
  have second : ann.cellJson 1 ⟨"firstName", .int4⟩ = .ok (.int 40) := by
    have number : CellDecoder.int4.decode .int4 [0, 0, 0, 40] = some 40 := by decide +kernel
    exact Row.cellJson_of_decode rfl rfl rfl (congrArg (Option.map Json.int) number)
  have decoded : ann.toJson Config.default = .ok object := by
    have members : ann.columns.zipIdx.mapM (ann.member Config.default) =
        .ok [("firstName", name), ("firstName", .int 40)] := by
      refine mapM_eq_ok_iff.2 (.cons ?_ (.cons ?_ .nil))
      · rw [Row.member, first, keys.1]
        rfl
      · rw [Row.member, second, keys.2]
        rfl
    rw [Row.toJson_eq, members]
    rfl
  have objects : (allPeople.fetchAllJson (answering [ann, ann])).result =
      .ok [object, object] := by
    change [ann, ann].mapM (Row.toJson Config.default) = _
    exact mapM_eq_ok_map (g := fun _ => object) (by simp [decoded])
  have failure : (allPeople.fetchAllJson (answering [ann, bob, ann])).result =
      .error (.decode "firstName" (.cell 1)) := rfl
  obtain ⟨-, -, presented⟩ := rows_decoded answered
  obtain ⟨-, failed, -⟩ := rows_decoded answered'
  obtain ⟨k, row, i, column, position, fails, -, same⟩ := (failed _).1 failure
  exact ⟨answered, objects, presented _ objects, answered', k, row, i, column, position, fails,
    failure.trans (congrArg Except.error same)⟩

end Query

end SqlBuilder
