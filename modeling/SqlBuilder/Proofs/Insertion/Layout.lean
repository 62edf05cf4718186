import SqlBuilder.Proofs.Exclusion
import SqlBuilder.Proofs.Omission

/-!
# Inserts and what stands around their rows

The rows of an `insert` are written below its columns: `Insertion.layout` is the text, in which
every item that is handed to it stands. What the code joins into such a text are the items that are
not empty (`Fragment.emitted`).

`Log.Insertable` gathers what an insert into one table needs so that all of its parts can be
written, and `Log.Framed` what stands around its rows. An insert then compiles exactly if its rows
can be written (`Query.compile_of_framed`).
-/

namespace SqlBuilder

/-! ### Lists of items -/

namespace Fragment

/-- Fragments one after the other with commas between them. -/
def listed (fs : List Fragment) : Fragment := concat (fs.intersperse (ofSql ", "))

/-- The fragments that are not empty. -/
def emitted (fs : List Fragment) : List Fragment := fs.filter fun f => !f.isEmpty

theorem join_eq_listed (fs : List Fragment) : join fs ", " = listed (emitted fs) := rfl

theorem emitted_eq_self {fs : List Fragment} (h : ∀ f ∈ fs, f.isEmpty = false) :
    emitted fs = fs :=
  List.filter_eq_self.2 fun f hf => by simp [h f hf]

@[simp] theorem args_listed (fs : List Fragment) : (listed fs).args = fs.flatMap args := by
  rw [listed, args_concat, flatMap_args_intersperse]

/-- Names with commas between them are one text. -/
theorem symbols_listed_ofSql (names : List String) :
    (listed (names.map ofSql)).symbols = (", ".intercalate names).toList.map Sum.inl := by
  rw [listed, symbols_concat, String.toList_intercalate, List.intercalate]
  induction names with
  | nil => rfl
  | cons name names ih =>
    cases names with
    | nil => simp
    | cons name' names =>
      simp only [List.map_cons, List.intersperse_cons_cons, List.flatMap_cons, List.flatten_cons,
        List.map_append] at ih ⊢
      rw [ih, symbols_ofSql, symbols_ofSql]

end Fragment

namespace Insertion

open Fragment (listed emitted)

/-- Columns and the rows below them. -/
def layout (columns : List Fragment) (rows : List (List Fragment)) : Fragment :=
  (listed columns).parenthesized ++ Fragment.ofSql " values " ++
    listed (rows.map fun row => (listed row).parenthesized)

/-- The parameters of the columns come first, and those of the rows follow row by row. -/
theorem args_layout (columns : List Fragment) (rows : List (List Fragment)) :
    (layout columns rows).args =
      columns.flatMap Fragment.args ++ rows.flatMap fun row => row.flatMap Fragment.args := by
  simp [layout, List.flatMap_map]

/-- A tuple is never empty, so none is left out. -/
theorem join_tuples (rows : List (List Fragment)) :
    Fragment.join (rows.map tuple) ", " =
      listed ((rows.map emitted).map fun row => (listed row).parenthesized) := by
  have spoken : ∀ f ∈ rows.map tuple, f.isEmpty = false := by
    refine List.forall_mem_map.2 fun row _ => Fragment.isEmpty_of_ne_nil ?_
    simp [tuple]
  rw [Fragment.join_eq_listed, Fragment.emitted_eq_self spoken, List.map_map]
  rfl

end Insertion

/-! ### Inserts into one table -/

/-- The term can be written in a row: as one value or, if it is a mapping, entry by entry. -/
def Term.FitsRow (config : Config) : Term → Prop
  | .record r => ∀ e ∈ r.entries, (config.column e.1).isOk ∧ e.2.operand.isOk
  | t => t.operand.isOk

theorem Term.fitsRow_of_operand {config : Config} {t : Term} (h : t.operand.isOk) :
    t.FitsRow config := by
  cases t with
  | record r => cases h
  | _ => exact h

namespace Log

/-- The calls make up an `insert` into one table, and all parts of it can be written. -/
structure Insertable (config : Config) (log : Log Term) (target : Term) : Prop where
  suits : log.Suits .insert
  /-- The target is the only source. -/
  sources : Source.ofLog log = [.table target]
  target : target.item.isOk
  columns : ∀ columns ∈ log.operandsOf .columns, (Term.list columns).isOk
  rows : ∀ t ∈ log.allOperands .rows, t.FitsRow config

/-- The first call that names tables names one, and what is written in front of the insert and
behind it. -/
structure Framed (log : Log Term) (before after : Fragment) : Prop where
  target : log.target?.isSome
  ctes : log.ctes = .ok before
  returning : log.keyedList .output "returning" = .ok after

theorem operandsOf_eq_only {α : Type} (log : Log α) (clause : Clause) :
    log.operandsOf clause = (log.only (· = clause)).map Call.operands := rfl

theorem uses_eq_false_iff {α : Type} {log : Log α} {clause : Clause} :
    log.uses (· = clause) = false ↔ log.operandsOf clause = [] := by
  rw [uses_eq_isEmpty, operandsOf_eq_only]
  simp

theorem mem_operandsOf {α : Type} {log : Log α} {call : Call α} (h : call ∈ log) :
    call.operands ∈ log.operandsOf call.clause :=
  List.mem_map_of_mem (List.mem_filter.2 ⟨h, decide_eq_true rfl⟩)

/-- An insert declares columns or gives rows. -/
theorem Suits.columns_or_rows {α : Type} {log : Log α} (h : log.Suits .insert) :
    log.operandsOf .columns ≠ [] ∨ log.operandsOf .rows ≠ [] := by
  have demanded : log.Demands .insert := h.demanded.2.resolve_right nofun
  obtain ⟨call, hcall, implied⟩ := List.any_eq_true.1 demanded
  have given := List.ne_nil_of_mem (mem_operandsOf hcall)
  cases clause : call.clause with
  | columns => exact .inl (clause ▸ given)
  | rows => exact .inr (clause ▸ given)
  | _ => simp [clause, Clause.impliedKind?] at implied

/-- The target of an insert into one table stands in front of its rows. -/
theorem Insertable.insertion_eq {config : Config} {log : Log Term} {target : Term}
    (h : log.Insertable config target) {item : Fragment} (written : target.item = .ok item) :
    log.insertion config = (Insertion.list config log).map fun rows =>
      (Fragment.headed "insert into" item).push " " ++ rows := by
  rw [insertion, h.sources]
  simp only [Source.splitTarget, List.isEmpty_nil, Bool.not_true, written, bind, Except.bind]
  cases Insertion.list config log <;> rfl

end Log

/-- A query that makes up an insert compiles exactly if its insertion can be written. -/
theorem Query.compile_of_framed {q : Query Operand} {before after : Fragment}
    (kind : q.terms.statementKind = .ok .insert) (framed : q.terms.Framed before after) :
    q.compile = (q.terms.insertion q.config).map fun text =>
      ⟨.insert, (Fragment.join [before, text, after] " ").toStatement⟩ := by
  obtain ⟨t, ht⟩ := Option.isSome_iff_exists.1 framed.target
  have sections : StatementKind.insert.sections.mapM (Section.text q.config q.terms) =
      (q.terms.insertion q.config).map fun text => [before, text, after] := by
    simp only [StatementKind.sections, List.mapM_cons, List.mapM_nil, Section.text, framed.ctes,
      framed.returning]
    cases q.terms.insertion q.config <;> rfl
  rw [compile, statement_eq_map, ← terms, Log.statement, kind]
  simp only [bind, Except.bind, ht, Option.isNone_some, Bool.and_false, sections]
  cases q.terms.insertion q.config <;> rfl

end SqlBuilder
