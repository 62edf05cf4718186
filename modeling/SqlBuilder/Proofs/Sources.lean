import SqlBuilder.Proofs.Insertion.Layout
import SqlBuilder.Proofs.Refusal

/-!
# Lists of sources

The tables of a `select` stand in the order of the calls with commas between them, and a join
directly behind what comes before it (`Source.arranged`). Tables without text in front of the first
table that has one leave no trace. Behind it every table gets its comma, whether it has a text or
not (`Source.list_eq`), so a mapping without entries leaves a comma with nothing behind it
(`Query.comma_alone`).
-/

namespace SqlBuilder

open Fragment (listed)

/-! ### Symbols of lists -/

namespace Fragment

theorem symbols_listed_cons (f : Fragment) (fs : List Fragment) :
    (listed (f :: fs)).symbols =
      f.symbols ++ fs.flatMap fun g => (ofSql ", ").symbols ++ g.symbols := by
  rw [listed, symbols_concat]
  induction fs generalizing f with
  | nil => simp
  | cons g fs ih => rw [List.intersperse_cons_cons, List.flatMap_cons, List.flatMap_cons, ih,
      List.flatMap_cons, List.append_assoc]

end Fragment

namespace Source

/-- A source as it is written: the item of a table, or a join with the blank in front of it. -/
inductive Part
  | table (item : Fragment)
  | join (text : Fragment)

namespace Part

def text : Part → Fragment
  | .table item => item
  | .join text => text

/-- A table without text. -/
def silent : Part → Bool
  | .table item => item.isEmpty
  | .join _ => false

/-- What is written for a part that is not the first one. -/
def following : Part → List Fragment
  | .table item => [Fragment.ofSql ", ", item]
  | .join text => [text]

end Part

/-- The part that a source is written as. -/
def part (config : Config) : Source → Except Error Part
  | .table t => t.item.map .table
  | .join kind operands => (joinText config kind operands).map .join

/-- The joins in front of the first table, and the tables with the joins behind each of them. -/
def attach : List Part → Fragment × List Fragment
  | [] => (Fragment.empty, [])
  | .table item :: rest => (Fragment.empty, (item ++ (attach rest).1) :: (attach rest).2)
  | .join text :: rest => (text ++ (attach rest).1, (attach rest).2)

/-- Tables with commas between them, and each join behind what comes before it, which has to be
something. -/
def arranged : List Part → Except Error Fragment
  | .join _ :: _ => .error (.validation .joinWithoutSource)
  | parts => .ok (listed (attach parts).2)

/-- All of the sources are tables without text. -/
def Silent (config : Config) (sources : List Source) : Prop :=
  ∀ s ∈ sources, ∃ p, part config s = .ok p ∧ p.silent

variable {config : Config}

/-! ### Adding one source after the other -/

/-- What is added for a source behind some text. -/
theorem extend_of_part {s : Source} {p : Part} (written : part config s = .ok p)
    {before : List Fragment} (some : before ≠ []) :
    extend config before s = .ok (p.following.reverse ++ before) := by
  have there : before.isEmpty = false := by simpa using some
  cases s with
  | table t =>
    obtain ⟨item, hitem, rfl⟩ := map_eq_ok written
    simp [extend, hitem, there, Part.following, Except.map]
  | join kind operands =>
    obtain ⟨text, htext, rfl⟩ := map_eq_ok written
    simp [extend, htext, there, Part.following, Except.map]

/-- What is added for a source as long as there is no text. -/
theorem extend_nil_of_part {s : Source} {p : Part} (written : part config s = .ok p) :
    extend config [] s = match p with
      | .table item => .ok (if item.isEmpty then [] else [item])
      | .join _ => .error (.validation .joinWithoutSource) := by
  cases s with
  | table t =>
    obtain ⟨item, hitem, rfl⟩ := map_eq_ok written
    simp [extend, hitem, Except.map]
  | join kind operands =>
    obtain ⟨text, -, rfl⟩ := map_eq_ok written
    rfl

theorem isOk_part_of_extend {s : Source} {before : List Fragment}
    (h : (extend config before s).isOk) : (part config s).isOk := by
  cases s with
  | table t =>
    rw [extend, isOk_map] at h
    rwa [part, isOk_map]
  | join kind operands =>
    cases before with
    | nil => cases h
    | cons f before =>
      rw [extend, List.isEmpty_cons, if_neg Bool.false_ne_true, isOk_map] at h
      rwa [part, isOk_map]

/-- Behind some text the parts follow one after the other. -/
theorem foldlM_extend {sources : List Source} {parts : List Part}
    (written : sources.mapM (part config) = .ok parts) {before : List Fragment}
    (some : before ≠ []) :
    sources.foldlM (extend config) before =
      .ok ((parts.flatMap Part.following).reverse ++ before) := by
  have run := mapM_eq_ok_iff.1 written
  clear written
  induction run generalizing before with
  | nil => rfl
  | @cons s p sources parts head _ ih =>
    have more : p.following.reverse ++ before ≠ [] := by simp [some]
    rw [List.foldlM_cons, extend_of_part head some]
    simp only [bind, Except.bind]
    rw [ih more]
    simp

/-- A part that follows gets a comma if it is a table, and none if it is a join. -/
theorem symbols_following (parts : List Part) :
    (parts.flatMap Part.following).flatMap Fragment.symbols =
      (attach parts).1.symbols ++
        (attach parts).2.flatMap fun g => (Fragment.ofSql ", ").symbols ++ g.symbols := by
  induction parts with
  | nil => rfl
  | cons p parts ih =>
    rw [List.flatMap_cons, List.flatMap_append, ih]
    cases p with
    | table item => simp [Part.following, attach]
    | join text => simp [Part.following, attach]

theorem concat_following (item : Fragment) (parts : List Part) :
    Fragment.concat (item :: parts.flatMap Part.following) =
      listed (attach (.table item :: parts)).2 := by
  refine (Fragment.canonical_ofPieces _).eq_of_symbols (Fragment.canonical_ofPieces _) ?_
  change (Fragment.concat (item :: parts.flatMap Part.following)).symbols =
    (listed ((item ++ (attach parts).1) :: (attach parts).2)).symbols
  rw [Fragment.symbols_concat, List.flatMap_cons, symbols_following, Fragment.symbols_listed_cons,
    Fragment.symbols_append, List.append_assoc]

/-- The tables in front of all text leave no trace, and the others are arranged. -/
theorem list_eq {sources : List Source} {parts : List Part}
    (written : sources.mapM (part config) = .ok parts) :
    list config sources = arranged (parts.dropWhile Part.silent) := by
  -- As long as the tables are silent, the texts so far are none; the first other part decides.
  have run := mapM_eq_ok_iff.1 written
  clear written
  induction run with
  | nil => rfl
  | @cons s p sources parts head others ih =>
    rw [list, List.foldlM_cons, extend_nil_of_part head]
    cases p with
    | join text => rfl
    | table item =>
      cases silent : item.isEmpty with
      | true =>
        have passed : (Part.table item :: parts).dropWhile Part.silent =
            parts.dropWhile Part.silent := by simp [Part.silent, silent]
        rw [passed, ← ih]
        simp [silent, list, bind, Except.bind]
      | false =>
        have kept : (Part.table item :: parts).dropWhile Part.silent = .table item :: parts := by
          simp [Part.silent, silent]
        simp only [silent, bind, Except.bind, Bool.false_eq_true, if_false]
        rw [kept, foldlM_extend (mapM_eq_ok_iff.2 others) (List.cons_ne_nil item []), arranged,
          ← concat_following]
        · simp [Except.map]
        · nofun

/-- Sources can only be written if each of them can. -/
theorem isOk_parts_of_list {sources : List Source} (h : (list config sources).isOk) :
    (sources.mapM (part config)).isOk := by
  rw [list, isOk_map] at h
  rw [isOk_mapM_iff]
  generalize ([] : List Fragment) = before at h
  induction sources generalizing before with
  | nil => exact nofun
  | cons s sources ih =>
    rw [List.foldlM_cons] at h
    cases extended : extend config before s with
    | error e =>
      rw [extended] at h
      cases h
    | ok texts =>
      rw [extended] at h
      have first : (extend config before s).isOk := by rw [extended]; rfl
      exact List.forall_mem_cons.2 ⟨isOk_part_of_extend first, ih texts h⟩

/-- If nothing silent stands behind the first text, leaving out what is silent in front of it is
leaving out all that is silent. -/
theorem dropWhile_silent {parts : List Part}
    (spoken : ∀ p ∈ parts.dropWhile Part.silent, p.silent = false) :
    parts.dropWhile Part.silent = parts.filter fun p => !p.silent := by
  induction parts with
  | nil => rfl
  | cons p parts ih =>
    cases silent : p.silent with
    | true =>
      simp only [List.dropWhile_cons, silent, if_true] at spoken
      simpa [silent] using ih spoken
    | false =>
      simp only [List.dropWhile_cons, silent, Bool.false_eq_true, if_false] at spoken ⊢
      exact (List.filter_eq_self.2 fun p hp => by simp [spoken p hp]).symm

/-- Tables without text in front of all others make no difference. -/
theorem list_of_silent {silents sources : List Source} (silent : Silent config silents) :
    list config (silents ++ sources) = list config sources := by
  have start : silents.foldlM (extend config) [] = .ok [] := by
    induction silents with
    | nil => rfl
    | cons s silents ih =>
      obtain ⟨⟨p, written, none⟩, others⟩ := List.forall_mem_cons.1 silent
      rw [List.foldlM_cons, extend_nil_of_part written]
      cases p with
      | join text => cases none
      | table item =>
        have none : item.isEmpty := none
        simpa [none, bind, Except.bind] using ih others
  rw [list, List.foldlM_append, start]
  rfl

end Source

/-! ### Queries -/

namespace Log

variable {α : Type} {earlier later : Log α} {operands : List α}

/-- A `select` may name more tables. -/
theorem statementKind_of_table (h : (earlier ++ later).statementKind = .ok .select) :
    (earlier ++ ⟨.table, operands⟩ :: later).statementKind = .ok .select := by
  obtain ⟨suits, -⟩ := (statementKind_eq_ok_iff _ _).1 h
  have demands (kind : StatementKind) : (earlier ++ ⟨.table, operands⟩ :: later).Demands kind ↔
      (earlier ++ later).Demands kind := by
    simp [Demands, uses, Clause.impliedKind?]
  refine (statementKind_eq_ok_iff _ _).2 ⟨⟨?_, fun call hcall => ?_⟩, fun insert => ?_⟩
  · simpa only [demands] using suits.demanded
  · have either : call = ⟨.table, operands⟩ ∨ call ∈ earlier ++ later := by
      simpa [or_left_comm] using hcall
    rcases either with rfl | hcall
    · rfl
    · exact suits.admitted call hcall
  · cases insert

end Log

/-- Tables without text in front of all others make no difference to a `select`. -/
theorem Log.statement_of_silent {config : Config} {earlier later : Log Term} {operands : List Term}
    (select : Log.statementKind (earlier ++ later) = .ok .select)
    (front : Source.Silent config (Source.ofLog earlier))
    (added : Source.Silent config (operands.map .table)) :
    Log.statement config (earlier ++ ⟨.table, operands⟩ :: later) =
      Log.statement config (earlier ++ later) := by
  have others : only (earlier ++ ⟨.table, operands⟩ :: later) (· ≠ .table) =
      only (earlier ++ later) (· ≠ .table) := by
    simp [only]
  have sources : Source.list config (Source.ofLog (earlier ++ ⟨.table, operands⟩ :: later)) =
      Source.list config (Source.ofLog (earlier ++ later)) := by
    have split : Source.ofLog (earlier ++ ⟨.table, operands⟩ :: later) =
        (Source.ofLog earlier ++ operands.map .table) ++ Source.ofLog later := by
      simp [Source.ofLog, Source.ofCall]
    have split' : Source.ofLog (earlier ++ later) =
        Source.ofLog earlier ++ Source.ofLog later := List.flatMap_append
    rw [split, split', Source.list_of_silent (List.forall_mem_append.2 ⟨front, added⟩),
      Source.list_of_silent front]
  have texts : StatementKind.select.sections.mapM
      (Section.text config (earlier ++ ⟨.table, operands⟩ :: later)) =
        StatementKind.select.sections.mapM (Section.text config (earlier ++ later)) := by
    refine mapM_congr fun s hs => ?_
    by_cases written : s = .sources
    · rw [written, Section.text, Section.text, sources]
    · have kept (clause : Clause) (read : s.reads clause) : decide (clause ≠ .table) := by
        apply decide_eq_true
        rintro rfl
        cases s with
        | sources => exact written rfl
        | insertion | assignment | otherSources | deletion => revert hs; decide
        | _ => cases read
      rw [← s.text_only config _ kept, others, s.text_only config _ kept]
  rw [statement, statement, statementKind_of_table select, select]
  simp only [bind, Except.bind, StatementKind.needsTarget, Bool.false_and, Bool.false_eq_true,
    if_false, texts]

namespace Query

open Source (Part)

/-- The sources of a `select` are written in the order of the calls, the tables that are not silent
with commas between them and each join behind what comes before it, as long as no silent table
stands behind another one. A silent table in front leaves no trace, and one behind gets a comma with
nothing behind it. -/
theorem sources_arranged {q : Query Operand} (select : q.kind = .ok .select) :
    (q.compile.isOk → ((Source.ofLog q.terms).mapM (Source.part q.config)).isOk) ∧
    (∀ parts, (Source.ofLog q.terms).mapM (Source.part q.config) = .ok parts →
      let written := parts.dropWhile Part.silent
      Section.text q.config q.terms .sources =
        (Source.arranged written).map (Fragment.headedUnlessEmpty "from") ∧
      ((∀ p ∈ written, p.silent = false) → written = parts.filter fun p => !p.silent)) ∧
    (∀ (q' : Query Operand) earlier operands later,
      q'.config = q.config → q.log = earlier ++ later →
      q'.log = earlier ++ ⟨.table, operands⟩ :: later →
      Source.Silent q.config (Source.ofLog (earlier.map (Call.map (Operand.term q.config)))) →
      Source.Silent q.config ((operands.map (Operand.term q.config)).map .table) →
      q'.compile = q.compile) := by
  have kind : q.terms.statementKind = .ok .select := q.kind_eq.trans select
  refine ⟨fun compiled => ?_, fun parts hparts => ⟨?_, Source.dropWhile_silent⟩, ?_⟩
  · rw [compile, isOk_map, statement_eq_map, ← terms, Log.statement, kind] at compiled
    simp only [bind, Except.bind, StatementKind.needsTarget, Bool.false_and, Bool.false_eq_true,
      if_false] at compiled
    refine Source.isOk_parts_of_list ?_
    have texts : (StatementKind.select.sections.mapM (Section.text q.config q.terms)).isOk := by
      cases texts : StatementKind.select.sections.mapM (Section.text q.config q.terms) with
      | ok fs => rfl
      | error e =>
        rw [texts] at compiled
        cases compiled
    have sources := isOk_mapM_iff.1 texts .sources (by decide)
    rwa [Section.text, isOk_map] at sources
  · rw [Section.text, Source.list_eq hparts]
  · intro q' earlier operands later config log log' front added
    have statement : q'.statement = q.statement := by
      rw [statement_eq_map, statement_eq_map, config, log', log, List.map_append, List.map_append,
        List.map_cons]
      refine Log.statement_of_silent ?_ front added
      rw [← List.map_append, ← log]
      exact kind
    rw [compile, compile, statement]

/-- Orders with their customers, and items, behind the sources of a query. -/
def withOrders (q : Query Operand) : Query Operand :=
  ((q.table "orders o").join .left "users u" "u.id = o.user_id").table "items i"

theorem sources_arranged_orders :
    let q := withOrders (Query.new Config.default)
    let q' := withOrders ((Query.new Config.default).table (.record ⟨[]⟩))
    q.kind = .ok .select ∧
    (∃ parts, (Source.ofLog q.terms).mapM (Source.part q.config) = .ok parts ∧
      (∀ p ∈ parts.dropWhile Part.silent, p.silent = false) ∧
      Section.text q.config q.terms .sources =
        (Source.arranged (parts.filter fun p => !p.silent)).map
          (Fragment.headedUnlessEmpty "from")) ∧
    q'.compile = q.compile ∧
    ∃ c, q.compile = .ok c ∧ c.statement =
      ⟨"select * from orders o left join users u on u.id = o.user_id, items i", []⟩ := by
  intro q q'
  have select : q.kind = .ok .select := rfl
  obtain ⟨parts, hparts⟩ := isOk_iff.1 ((sources_arranged select).1 rfl)
  have spoken : ∀ p ∈ parts.dropWhile Part.silent, p.silent = false := by
    cases hparts
    decide
  obtain ⟨text, kept⟩ := (sources_arranged select).2.1 parts hparts
  refine ⟨select, ⟨parts, hparts, spoken, ?_⟩, ?_, _, rfl, rfl⟩
  · rw [text, kept spoken]
  · refine (sources_arranged select).2.2 q' [] [.record ⟨[]⟩] q.log rfl rfl rfl nofun ?_
    exact List.forall_mem_singleton.2 ⟨.table Fragment.empty, rfl, rfl⟩

/-- A mapping without entries behind a table leaves a comma with nothing behind it. -/
theorem comma_alone :
    let q := ((Query.new Config.default).table "t").table (.record ⟨[]⟩)
    q.kind = .ok .select ∧ Source.ofLog q.terms = [.table (.raw "t"), .table (.record ⟨[]⟩)] ∧
      Source.Silent q.config [.table (.record ⟨[]⟩)] ∧
      ∃ c, q.compile = .ok c ∧ c.statement = ⟨"select * from t, ", []⟩ := by
  intro q
  refine ⟨rfl, rfl, ?_, _, rfl, rfl⟩
  exact List.forall_mem_singleton.2 ⟨.table Fragment.empty, rfl, rfl⟩

end Query

end SqlBuilder
