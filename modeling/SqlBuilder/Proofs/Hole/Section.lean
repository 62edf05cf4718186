import SqlBuilder.Proofs.Exclusion
import SqlBuilder.Proofs.Hole.Insertion

/-!
# Statements with one parameter for another

A log with a hole is written section by section. Only the sections that read the clause of the hole
can tell what is in it, and of these exactly one has the change: a table beside the target of an
`update` is not part of the target. So the statements of two fillings are the same but for one
parameter (`Log.Frame.swaps_statement`).
-/

namespace SqlBuilder

variable {v w : Value} (config : Config)

/-! ### Sources -/

/-- The same source, but for one parameter. -/
inductive Source.Swaps (v w : Value) : Source → Source → Prop
  | table {t u : Term} (h : t.Swaps v w .item u) : Swaps v w (.table t) (.table u)
  | target (kind : Join) {t u : Term} (conditions : List Term) (h : t.Swaps v w .item u) :
      Swaps v w (.join kind (t :: conditions)) (.join kind (u :: conditions))
  | condition (kind : Join) (target : Term) {ts us : List Term}
      (h : OneChange (Term.Swaps v w .mapping) ts us) :
      Swaps v w (.join kind (target :: ts)) (.join kind (target :: us))

/-- A target and the sources beside it, with one parameter for another in the target or beside
it. -/
inductive Source.TargetSwaps (v w : Value) : Term × List Source → Term × List Source → Prop
  | target {t u : Term} (h : t.Swaps v w .item u) (others : List Source) :
      TargetSwaps v w (t, others) (u, others)
  | others (target : Term) {others others' : List Source}
      (h : OneChange (Swaps v w) others others') :
      TargetSwaps v w (target, others) (target, others')

namespace Source

variable {s s' : Source}

theorem Swaps.joinText {kind : Join} {ts us : List Term}
    (h : Swaps v w (.join kind ts) (.join kind us)) :
    Follows (Fragment.Swaps v w) (joinText config kind ts) (Source.joinText config kind us) := by
  cases h with
  | target _ conditions h =>
    refine h.item.bind fun f g item => .bind_same fun condition => .bind_same fun on => .ok ?_
    exact (item.prepend _).append on
  | condition _ target h =>
    refine AgreeUnless.bind_same fun item => (Condition.swaps_anyOf config h).bind ?_
    rintro _ _ ⟨c, d, rfl, rfl, swap⟩
    unfold joinCondition
    split_ifs
    · exact .error _
    · exact .ok ((swap.render.prepend _).prepend _)

theorem Swaps.extend (h : s.Swaps v w s') (before : List Fragment) :
    Follows (OneChange (Fragment.Swaps v w)) (extend config before s)
      (Source.extend config before s') := by
  have join {kind : Join} {ts us : List Term} (h : Swaps v w (.join kind ts) (.join kind us)) :
      Follows (OneChange (Fragment.Swaps v w)) (Source.extend config before (.join kind ts))
        (Source.extend config before (.join kind us)) := by
    unfold Source.extend
    simp only
    split_ifs
    · exact .error _
    · exact (h.joinText config).map fun _ _ => .head before
  cases h with
  | table h =>
    apply h.item.map
    intro f g item
    simp only [item.isEmpty_eq, Bool.false_eq_true, if_false]
    split_ifs
    · exact .head _ item
    · exact .head [] item
  | target kind conditions h => exact join (.target kind conditions h)
  | condition kind target h => exact join (.condition kind target h)

/-- A source behind the change is written alike. -/
theorem extend_behind {before before' : List Fragment}
    (h : OneChange (Fragment.Swaps v w) before before') (s : Source) :
    Follows (OneChange (Fragment.Swaps v w)) (extend config before s)
      (extend config before' s) := by
  unfold extend
  simp only [h.ne_nil]
  cases s with
  | table t => exact .map_same fun item => (h.cons _).cons item
  | join kind ts => exact .map_same fun text => h.cons text

theorem swaps_list {sources sources' : List Source} (h : OneChange (Swaps v w) sources sources') :
    Follows (Fragment.Swaps v w) (list config sources) (list config sources') := by
  obtain ⟨before, s, s', after, rfl, rfl, swap⟩ := h
  refine AgreeUnless.map (AgreeUnless.foldlM (swap.extend config) ?_ []) fun _ _ texts =>
    .concat texts.reverse
  exact fun _ _ texts s _ => extend_behind config texts s

theorem swaps_splitTarget {sources sources' : List Source}
    (h : OneChange (Swaps v w) sources sources') :
    Agree (TargetSwaps v w) (splitTarget sources) (splitTarget sources') := by
  obtain ⟨before, s, s', after, rfl, rfl, swap⟩ := h
  match before with
  | [] =>
    cases swap with
    | table h => exact .ok (.target h after)
    | target | condition => exact .error _
  | .table target :: before => exact .ok (.others target (.at_hole before after swap))
  | .join .. :: before => exact .error _

end Source

namespace Log.Frame

variable (F : Log.Frame Term) {t u : Term}

theorem oneChange_sources (source : F.clause.isSource) (h : t.Swaps v w F.place u) :
    OneChange (Source.Swaps v w) (Source.ofLog (F.fill t)) (Source.ofLog (F.fill u)) := by
  obtain ⟨earlier, clause, before, after, later⟩ := F
  have call : OneChange (Source.Swaps v w) (Source.ofCall ⟨clause, before ++ t :: after⟩)
      (Source.ofCall ⟨clause, before ++ u :: after⟩) := by
    cases clause with
    | table => exact (OneChange.at_hole before after h).map fun _ _ => .table
    | join kind =>
      cases before with
      | nil => exact .head [] (.target kind after h)
      | cons target before => exact .head [] (.condition kind target (.at_hole before after h))
    | _ => cases source
  simp only [fill, Source.ofLog, List.flatMap_append, List.flatMap_cons]
  exact (call.append_right _).append_left _

/-! ### Sections -/

theorem only_fill (t u : Term) :
    (F.fill t).only (· ≠ F.clause) = (F.fill u).only (· ≠ F.clause) := by
  simp [fill, Log.only]

/-- A section that does not read the clause of the hole. -/
theorem text_fill {s : Section} (unread : s.reads F.clause = false) (t u : Term) :
    s.text config (F.fill t) = s.text config (F.fill u) := by
  have kept : ∀ clause, s.reads clause → decide (clause ≠ F.clause) := by
    rintro clause reads
    apply decide_eq_true
    rintro rfl
    rw [unread] at reads
    cases reads
  rw [← s.text_only config (F.fill t) kept, F.only_fill t u, s.text_only config (F.fill u) kept]

theorem ofLog_fill (other : F.clause.isSource = false) (t u : Term) :
    Source.ofLog (F.fill t) = Source.ofLog (F.fill u) := by
  have kept : ∀ clause : Clause, clause.isSource → decide (clause ≠ F.clause) := by
    rintro clause source
    apply decide_eq_true
    rintro rfl
    rw [other] at source
    cases source
  rw [← Source.ofLog_of_kept _ kept, F.only_fill t u, Source.ofLog_of_kept _ kept]

theorem oneChange_operandsOf {R : Term → Term → Prop} (h : R t u) :
    OneChange (OneChange R) ((F.fill t).operandsOf F.clause) ((F.fill u).operandsOf F.clause) := by
  rw [F.operandsOf_fill, F.operandsOf_fill]
  exact .at_hole _ _ (.at_hole _ _ h)

theorem oneChange_allOperands {R : Term → Term → Prop} (h : R t u) :
    OneChange R ((F.fill t).allOperands F.clause) ((F.fill u).allOperands F.clause) :=
  (F.oneChange_operandsOf h).flatten

variable {clause : Clause}

theorem swaps_keyedList (at_hole : F.clause = clause) (h : t.Swaps v w .item u) (keyword : String) :
    Follows (Fragment.Swaps v w) ((F.fill t).keyedList clause keyword)
      ((F.fill u).keyedList clause keyword) := by
  subst at_hole
  exact (Term.Swaps.list (F.oneChange_allOperands h)).map fun _ _ swap =>
    swap.headedUnlessEmpty keyword

theorem swaps_keyedCondition (at_hole : F.clause = clause) (h : t.Swaps v w .mapping u)
    (keyword : String) :
    Follows (Fragment.Swaps v w) ((F.fill t).keyedCondition config clause keyword)
      ((F.fill u).keyedCondition config clause keyword) := by
  subst at_hole
  have conditions := AgreeUnless.mapM_change (F.oneChange_operandsOf h) fun _ _ =>
    Condition.swaps_anyOf config
  refine conditions.bind fun cs ds changed => ?_
  obtain ⟨c, d, left, right, swap⟩ :=
    Condition.swaps_conjoin (Condition.oneChange_filterMap changed)
  rw [left, right]
  exact .ok (swap.render.headed keyword)

/-- The operand of the last call counts. -/
theorem swaps_keyedLast (at_hole : F.clause = clause)
    (last : F.before = [] ∧ ∀ call ∈ F.later, call.clause ≠ F.clause) (h : t.Swaps v w .operand u)
    (keyword : String) :
    Follows (Fragment.Swaps v w) ((F.fill t).keyedLast clause keyword)
      ((F.fill u).keyedLast clause keyword) := by
  subst at_hole
  have none : F.later.operandsOf F.clause = [] := by simpa [Log.operandsOf] using last.2
  have operand (x : Term) :
      ((F.fill x).operandsOf F.clause).getLast?.bind List.head? = some x := by
    simp [F.operandsOf_fill, none, last.1]
  unfold keyedLast
  rw [operand, operand]
  exact h.operand.map fun _ _ swap => swap.headed keyword

theorem swaps_cteItem {e e' : String × Term} {place : Place} (h : EntrySwaps v w place e e') :
    Follows (Fragment.Swaps v w) (cteItem e) (cteItem e') := by
  unfold cteItem
  rw [h.1]
  refine .bind_same fun name => h.2.body.bind fun _ _ swap => .ok ?_
  exact swap.parenthesized.prepend _

/-- A call gives one mapping, or a name and a body. -/
theorem swaps_cteItems (before after : List Term)
    (h : t.Swaps v w (Clause.cte.place before.length) u) :
    Follows (OneChange (Fragment.Swaps v w)) (cteItems (before ++ t :: after))
      (cteItems (before ++ u :: after)) := by
  match before, after with
  | [], [] =>
    rcases h.entries? (.inl rfl) with ⟨r, s, hr, hs, entries⟩ | ⟨hr, hs, -⟩
    · rw [List.nil_append, List.nil_append, cteItems_of_entries hr, cteItems_of_entries hs]
      exact AgreeUnless.mapM_change entries fun _ _ => swaps_cteItem
    · rw [List.nil_append, List.nil_append, cteItems_of_none hr, cteItems_of_none hs]
      exact .error _
  | [], [body] => cases h <;> exact .error _
  | [name], [] =>
    cases name with
    | raw name =>
      have item : EntrySwaps v w .operand (name, t) (name, u) := ⟨rfl, h⟩
      exact (swaps_cteItem item).map fun _ _ swap => .head [] swap
    | _ => exact .error _
  | [], _ :: _ :: _ | [_], _ :: _ | _ :: _ :: [], _ | _ :: _ :: _ :: _, _ =>
    simp only [List.cons_append, List.nil_append, cteItems_long]
    exact .error _

theorem swaps_ctes (at_hole : F.clause = .cte) (h : t.Swaps v w F.place u) :
    Follows (Fragment.Swaps v w) (F.fill t).ctes (F.fill u).ctes := by
  have items : Follows (OneChange (Fragment.Swaps v w)) (cteItems (F.before ++ t :: F.after))
      (cteItems (F.before ++ u :: F.after)) :=
    swaps_cteItems F.before F.after (by rwa [place, at_hole] at h)
  have calls (x : Term) : (F.fill x).operandsOf .cte = F.earlier.operandsOf .cte ++
      (F.before ++ x :: F.after) :: F.later.operandsOf .cte := by
    rw [← at_hole, F.operandsOf_fill]
  have written (log : Log Term) (given : log.operandsOf .cte ≠ []) : log.ctes =
      ((log.operandsOf .cte).mapM cteItems).map fun groups =>
        Fragment.headed "with" (Fragment.join groups.flatten ", ") := by
    unfold ctes
    split
    · contradiction
    · rfl
  rw [written _ (by simp [calls]), written _ (by simp [calls]), calls, calls]
  refine AgreeUnless.map (AgreeUnless.mapM (fun _ _ => rfl) items) fun _ _ groups => ?_
  exact (Fragment.Swaps.join groups.flatten ", ").headed "with"

theorem swaps_insertion (same : Source.ofLog (F.fill t) = Source.ofLog (F.fill u))
    (rows : Follows (Fragment.Swaps v w) (Insertion.list config (F.fill t))
      (Insertion.list config (F.fill u))) :
    Follows (Fragment.Swaps v w) ((F.fill t).insertion config) ((F.fill u).insertion config) := by
  unfold insertion
  rw [same]
  refine .bind_same fun (target, others) => ?_
  simp only
  split_ifs
  · exact .error _
  · exact .bind_same fun item => rows.bind fun _ _ swap => .ok (swap.prepend _)

theorem swaps_assignmentList (at_hole : F.clause = .assignment) (h : t.Swaps v w .mapping u) :
    Follows (Fragment.Swaps v w) (Assignment.list config (F.fill t))
      (Assignment.list config (F.fill u)) := by
  have operands := F.oneChange_allOperands h
  rw [at_hole] at operands
  unfold Assignment.list
  have groups := AgreeUnless.mapM_change operands fun _ _ => Assignment.swaps_ofTerm config
  refine groups.bind fun _ _ changed => ?_
  have joined := Fragment.Swaps.join changed.flatten ", "
  simp only [joined.isEmpty_eq]
  exact .ok joined

theorem swaps_assignment (at_hole : F.clause = .assignment) (h : t.Swaps v w .mapping u) :
    Follows (Fragment.Swaps v w) ((F.fill t).assignment config) ((F.fill u).assignment config) := by
  unfold assignment
  rw [F.ofLog_fill (by rw [at_hole]; rfl) t u]
  refine .bind_same fun (target, _) => ?_
  refine (F.swaps_assignmentList config at_hole h).bind fun _ _ swap => ?_
  exact .bind_same fun item => .ok ((swap.headed _).prepend _)

/-! The first source is the target of a mutation. -/

section

variable (source : F.clause.isSource) (h : t.Swaps v w F.place u)

include source h

theorem swaps_target : Agree (Source.TargetSwaps v w) (Source.splitTarget (Source.ofLog (F.fill t)))
    (Source.splitTarget (Source.ofLog (F.fill u))) :=
  Source.swaps_splitTarget (F.oneChange_sources source h)

theorem swaps_insertion_source :
    Follows (Fragment.Swaps v w) ((F.fill t).insertion config) ((F.fill u).insertion config) := by
  have rows : Insertion.list config (F.fill t) = Insertion.list config (F.fill u) := by
    have kept {clause : Clause} (other : clause.isSource = false) : clause ≠ F.clause := by
      rintro rfl
      rw [source] at other
      cases other
    have only (x : Term) := Insertion.list_only config (F.fill x) (p := (· ≠ F.clause))
      (decide_eq_true (kept rfl)) (decide_eq_true (kept rfl))
    rw [← only t, F.only_fill t u, only u]
  unfold insertion
  rw [rows]
  refine (AgreeUnless.of_agree (F.swaps_target source h)).bind fun _ _ related => ?_
  cases related with
  | target h others =>
    simp only
    split_ifs
    · exact .error _
    · refine h.item.bind fun _ _ item => .bind_same fun rows => .ok ?_
      exact ((item.headed _).push _).append _
  | others target h =>
    simp only [h.ne_nil]
    exact .error _

theorem swaps_deletion :
    Follows (Fragment.Swaps v w) ((F.fill t).deletion config) ((F.fill u).deletion config) := by
  refine (AgreeUnless.of_agree (F.swaps_target source h)).bind fun _ _ related => ?_
  cases related with
  | target h others =>
    exact h.item.bind fun _ _ item => .bind_same fun beside => .ok ((item.headed _).append _)
  | others target h =>
    refine .bind_same fun item => (Source.swaps_list config h).bind fun _ _ beside => .ok ?_
    exact (beside.headedUnlessEmpty _).prepend _

/-- Of the two sections of an `update` that read its sources, one has the change. -/
theorem swaps_update :
    (Follows (Fragment.Swaps v w) ((F.fill t).assignment config) ((F.fill u).assignment config) ∧
      (F.fill t).otherSources config = (F.fill u).otherSources config) ∨
    ((F.fill t).assignment config = (F.fill u).assignment config ∧
      Follows (Fragment.Swaps v w) ((F.fill t).otherSources config)
        ((F.fill u).otherSources config)) := by
  have kept : F.clause ≠ .assignment := by
    intro same
    rw [same] at source
    cases source
  have list : Assignment.list config (F.fill t) = Assignment.list config (F.fill u) := by
    rw [Assignment.list, Log.allOperands, F.operandsOf_fill_of_ne kept t u]
    rfl
  have target := F.swaps_target source h
  unfold assignment otherSources
  rw [list]
  generalize Source.splitTarget (Source.ofLog (F.fill t)) = x,
    Source.splitTarget (Source.ofLog (F.fill u)) = y at target
  cases target with
  | error e => exact .inl ⟨.error e, rfl⟩
  | ok related =>
    cases related with
    | target h others =>
      refine .inl ⟨?_, rfl⟩
      refine AgreeUnless.bind_same (x := Assignment.list config (F.fill u)) fun assignments => ?_
      exact h.item.bind fun _ _ item => .ok (((item.headed _).push _).append _)
    | others target h =>
      refine .inr ⟨rfl, (Source.swaps_list config h).bind fun _ _ others => ?_⟩
      exact .ok (others.headedUnlessEmpty _)

end

/-- A section that reads the clause of the hole has the change, if it is the only one that does. -/
theorem swaps_text (written : F.Written) (h : t.Swaps v w F.place u) {s : Section}
    (reads : s.reads F.clause)
    (alone : F.clause.isSource → s ≠ .assignment ∧ s ≠ .otherSources) :
    Follows (Fragment.Swaps v w) (s.text config (F.fill t)) (s.text config (F.fill u)) := by
  have placed {clause : Clause} (at_hole : F.clause = clause) :
      t.Swaps v w (clause.place F.before.length) u := by rwa [place, at_hole] at h
  cases s with
  | ctes => exact F.swaps_ctes (of_decide_eq_true reads) h
  | selection =>
    have at_hole : F.clause = .output := of_decide_eq_true reads
    have columns := Term.Swaps.list (F.oneChange_allOperands (placed at_hole))
    rw [at_hole] at columns
    apply columns.map
    intro f g swap
    simp only [swap.isEmpty_eq]
    exact swap.headed _
  | sources =>
    have sources := Source.swaps_list config (F.oneChange_sources reads h)
    exact sources.map fun _ _ swap => swap.headedUnlessEmpty _
  | filter =>
    have at_hole : F.clause = .filter := of_decide_eq_true reads
    exact F.swaps_keyedCondition config at_hole (placed at_hole) _
  | grouping =>
    have at_hole : F.clause = .grouping := of_decide_eq_true reads
    exact F.swaps_keyedList at_hole (placed at_hole) _
  | having =>
    have at_hole : F.clause = .having := of_decide_eq_true reads
    exact F.swaps_keyedCondition config at_hole (placed at_hole) _
  | ordering =>
    have at_hole : F.clause = .ordering := of_decide_eq_true reads
    exact F.swaps_keyedList at_hole (placed at_hole) _
  | limit =>
    have at_hole : F.clause = .limit := of_decide_eq_true reads
    exact F.swaps_keyedLast at_hole (written.last (.inl at_hole)) (placed at_hole) _
  | offset =>
    have at_hole : F.clause = .offset := of_decide_eq_true reads
    exact F.swaps_keyedLast at_hole (written.last (.inr at_hole)) (placed at_hole) _
  | insertion =>
    simp only [Section.reads, Bool.or_eq_true, decide_eq_true_eq] at reads
    rcases reads with (source | columns) | rows
    · exact F.swaps_insertion_source config source h
    · refine F.swaps_insertion config (F.ofLog_fill (by rw [columns]; rfl) t u) ?_
      exact Insertion.swaps_list_columns F config columns (written.columns columns) (placed columns)
    · refine F.swaps_insertion config (F.ofLog_fill (by rw [rows]; rfl) t u) ?_
      exact Insertion.swaps_list_rows F config rows (placed rows)
  | assignment =>
    simp only [Section.reads, Bool.or_eq_true, decide_eq_true_eq] at reads
    rcases reads with source | at_hole
    · exact absurd rfl (alone source).1
    · exact F.swaps_assignment config at_hole (placed at_hole)
  | otherSources => exact absurd rfl (alone reads).2
  | deletion =>
    simp only [Section.reads, Bool.or_eq_true, decide_eq_true_eq] at reads
    rcases reads with source | marker
    · exact F.swaps_deletion config source h
    · exact absurd marker written.ne_deletion
  | returning =>
    have at_hole : F.clause = .output := of_decide_eq_true reads
    exact F.swaps_keyedList at_hole (placed at_hole) _
  | manual =>
    have at_hole : F.clause = .manual := of_decide_eq_true reads
    have operands := F.oneChange_allOperands h
    rw [at_hole] at operands
    have parts := AgreeUnless.mapM_change operands fun _ _ => Term.Swaps.body
    exact parts.map fun _ _ changed => .join changed " "

end Log.Frame

/-! ### Statements -/

/-- Beside its target and its other tables, an `update` reads no sources. -/
theorem Section.reads_source {s : Section} {clause : Clause} (source : clause.isSource)
    (h : s ∈ [ctes, filter, returning]) : s.reads clause = false := by
  simp only [List.mem_cons, List.not_mem_nil, or_false] at h
  rcases h with rfl | rfl | rfl
  all_goals cases clause <;> first | rfl | cases source

/-- One section of a kind of statement reads a clause, but for the sources of an `update`. -/
theorem StatementKind.sections_split {kind : StatementKind} {clause : Clause}
    (admits : kind.admits clause) (single : kind = .update → clause.isSource = false) :
    ∃ before s after, kind.sections = before ++ s :: after ∧ s.reads clause ∧
      ∀ s' ∈ before ++ after, s'.reads clause = false := by
  have one : ∃ s, kind.sections.filter (·.reads clause) = [s] := by
    revert admits single
    cases kind <;> cases clause <;>
      simp [StatementKind.admits, StatementKind.sections, Section.reads, Clause.isSource]
  obtain ⟨s, only⟩ := one
  obtain ⟨before, after, split, none, reads, rest⟩ := List.filter_eq_cons_iff.1 only
  refine ⟨before, s, after, split, reads, fun s' hs' => ?_⟩
  rcases List.mem_append.1 hs' with hs' | hs'
  · simpa using none s' hs'
  · simpa using List.filter_eq_nil_iff.1 rest s' hs'

/-- Two logs of the same clauses, of whose sections exactly one differs. -/
theorem Log.swaps_statement {log log' : Log Term}
    (clauses : log.map Call.clause = log'.map Call.clause)
    (target : log.target?.isNone = log'.target?.isNone)
    (sections : ∀ kind, log.statementKind = .ok kind → ∃ before s after,
      kind.sections = before ++ s :: after ∧
      (∀ s' ∈ before ++ after, s'.text config log = s'.text config log') ∧
      Follows (Fragment.Swaps v w) (s.text config log) (s.text config log')) :
    Follows (fun s s' => s.1 = s'.1 ∧ s.2.Swaps v w s'.2) (Log.statement config log)
      (Log.statement config log') := by
  unfold Log.statement
  rw [← statementKind_eq clauses, ← target]
  cases hkind : log.statementKind with
  | error e => exact .error e
  | ok kind =>
    simp only [bind, Except.bind]
    split_ifs
    · exact .error _
    · obtain ⟨before, s, after, split, same, changed⟩ := sections kind hkind
      rw [split]
      refine AgreeUnless.bind (AgreeUnless.mapM same changed) fun fs gs texts => .ok ?_
      exact ⟨rfl, .join texts " "⟩

namespace Log.Frame

variable (F : Log.Frame Term) {t u : Term}

theorem target?_isNone_fill (t u : Term) :
    (F.fill t).target?.isNone = (F.fill u).target?.isNone := by
  by_cases table : F.clause = .table
  · have calls (x : Term) : (F.fill x).operandsOf .table = F.earlier.operandsOf .table ++
        (F.before ++ x :: F.after) :: F.later.operandsOf .table := by
      rw [← table, F.operandsOf_fill]
    rw [target?, calls, target?, calls]
    cases F.earlier.operandsOf .table with
    | nil => cases F.before <;> rfl
    | cons ts calls => rfl
  · rw [target?, F.operandsOf_fill_of_ne table t u, target?]

/-- The kind of a statement has the clause of the hole. -/
theorem admits_fill {kind : StatementKind} (h : (F.fill t).statementKind = .ok kind) :
    kind.admits F.clause :=
  (((F.fill t).statementKind_eq_ok_iff kind).1 h).1.admitted _ List.mem_append_cons_self

/-- Whatever is written of the hole is in one place of the statement. -/
theorem swaps_statement (written : F.Written) (h : t.Swaps v w F.place u) :
    Follows (fun s s' => s.1 = s'.1 ∧ s.2.Swaps v w s'.2) (Log.statement config (F.fill t))
      (Log.statement config (F.fill u)) := by
  refine Log.swaps_statement config (F.clauses_fill t u) (F.target?_isNone_fill t u) ?_
  intro kind hkind
  have admits := F.admits_fill hkind
  -- an `update` reads its sources in two sections: the first one is its target
  by_cases several : kind = .update ∧ F.clause.isSource
  · obtain ⟨rfl, source⟩ := several
    have same {s : Section} (hs : s ∈ [.ctes, .filter, .returning]) :
        s.text config (F.fill t) = s.text config (F.fill u) :=
      F.text_fill config (Section.reads_source source hs) t u
    rcases F.swaps_update config source h with ⟨changed, others⟩ | ⟨target, changed⟩
    · refine ⟨[.ctes], .assignment, [.otherSources, .filter, .returning], rfl, ?_, changed⟩
      exact List.forall_mem_cons.2 ⟨same (by simp),
        List.forall_mem_cons.2 ⟨others, fun s hs => same (List.mem_cons_of_mem _ hs)⟩⟩
    · refine ⟨[.ctes, .assignment], .otherSources, [.filter, .returning], rfl, ?_, changed⟩
      exact List.forall_mem_cons.2 ⟨same (by simp),
        List.forall_mem_cons.2 ⟨target, fun s hs => same (List.mem_cons_of_mem _ hs)⟩⟩
  · obtain ⟨before, s, after, split, reads, others⟩ :=
      StatementKind.sections_split admits fun update => by simpa [update] using several
    refine ⟨before, s, after, split, fun s' hs' => F.text_fill config (others s' hs') t u, ?_⟩
    refine F.swaps_text config written h reads fun source => ?_
    have mem : s ∈ kind.sections := split ▸ List.mem_append_cons_self
    have other : kind ≠ .update := fun update => several ⟨update, source⟩
    constructor
    all_goals
      rintro rfl
      cases kind <;> simp [StatementKind.sections] at mem other

/-- An entry of a row is written in its cell, if no later entry is for the same column. -/
theorem swaps_statement_cell (rows : F.clause = .rows) (before : List (String × Term))
    (key : String) (after : List (String × Term))
    (last : ∀ e ∈ after, config.inputKey e.1 ≠ config.inputKey key) (h : t.Swaps v w .operand u) :
    Follows (fun s s' => s.1 = s'.1 ∧ s.2.Swaps v w s'.2)
      (Log.statement config (F.fill (.record ⟨before ++ (key, t) :: after⟩)))
      (Log.statement config (F.fill (.record ⟨before ++ (key, u) :: after⟩))) := by
  refine Log.swaps_statement config (F.clauses_fill _ _) (F.target?_isNone_fill _ _) ?_
  intro kind hkind
  have admits := F.admits_fill hkind
  obtain ⟨before', s, after', split, reads, others⟩ :=
    StatementKind.sections_split admits fun _ => by rw [rows]; rfl
  refine ⟨before', s, after', split, fun s' hs' => F.text_fill config (others s' hs') _ _, ?_⟩
  rw [rows] at reads
  cases s with
  | insertion =>
    refine F.swaps_insertion config (F.ofLog_fill (by rw [rows]; rfl) _ _) ?_
    exact Insertion.swaps_list_cell F config rows before key after last h
  | _ => cases reads

end Log.Frame

end SqlBuilder
