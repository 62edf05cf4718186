import SqlBuilder.Proofs.Operand
import SqlBuilder.Proofs.Traversal.Section

/-!
# The arguments of a statement are the values of its query

A statement has the values of its sections one after the other, and every operand contributes
what its term yields, so the arguments of a compiled query are `Query.traversal`: no value is
lost, duplicated or moved.
-/

namespace SqlBuilder

namespace Log

/-- The values of a section. -/
def sectionValues (config : Config) (log : Log Contribution) : Section → List Value
  | .ctes => log.clauseValues .cte
  | .selection => log.clauseValues .output
  | .sources => log.sourceValues.flatten
  | .filter => log.clauseValues .filter
  | .grouping => log.clauseValues .grouping
  | .having => log.clauseValues .having
  | .ordering => log.clauseValues .ordering
  | .limit => log.lastOperandValues .limit
  | .offset => log.lastOperandValues .offset
  | .insertion => log.targetValues ++ (log.lastCallValues .columns ++ log.rowValues config)
  | .assignment => log.targetValues ++ log.clauseValues .assignment
  | .otherSources => log.otherSourceValues
  | .deletion => log.targetValues ++ log.otherSourceValues
  | .returning => log.clauseValues .output
  | .manual => log.clauseValues .manual

theorem flatMap_sectionValues (config : Config) (log : Log Contribution) (kind : StatementKind) :
    kind.sections.flatMap (log.sectionValues config) = log.kindValues config kind := by
  cases kind <;> simp [StatementKind.sections, sectionValues, kindValues]

namespace Contributes

variable {log : Log Term} {contributions : Log Contribution} {config : Config}

theorem clauses_eq (h : log.Contributes contributions) :
    log.map Call.clause = contributions.map Call.clause :=
  map_eq_iff_forall₂.2 (List.Forall₂.imp (fun _ _ => And.left) h)

theorem operandsOf (h : log.Contributes contributions) (clause : Clause) :
    List.Forall₂ (List.Forall₂ Term.Contributes) (log.operandsOf clause)
      (contributions.operandsOf clause) := by
  unfold Log.operandsOf
  unfold Log.Contributes at h
  rw [List.forall₂_map_left_iff, List.forall₂_map_right_iff]
  exact (List.rel_filter (fun call d hd => by simp [hd.1]) h).imp fun _ _ => And.right

theorem allOperands (h : log.Contributes contributions) (clause : Clause) :
    List.Forall₂ Term.Contributes (log.allOperands clause) (contributions.allOperands clause) :=
  List.rel_flatten (h.operandsOf clause)

/-- The values of a clause whose operands all stand in the same place. -/
theorem clauseValues_uniform (clause : Clause) (place : Place)
    (uniform : ∀ i, clause.place i = place) (contributions : Log Contribution) :
    contributions.clauseValues clause =
      (contributions.allOperands clause).flatMap fun c => c.values place := by
  rw [clauseValues, Log.allOperands, flatMap_flatten]
  congr 1
  funext cs
  exact callValues_uniform place uniform cs

theorem keyedList (h : log.Contributes contributions) {clause : Clause}
    (uniform : ∀ i, clause.place i = .item) (keyword : String) :
    GivesArgs (log.keyedList clause keyword) (contributions.clauseValues clause) := by
  rw [clauseValues_uniform clause .item uniform]
  have operands := Term.Contributes.list (h.allOperands clause)
  refine operands.map fun f hf => ?_
  rw [Fragment.args_headedUnlessEmpty, hf]

theorem keyedCondition (h : log.Contributes contributions) {clause : Clause}
    (uniform : ∀ i, clause.place i = .mapping) (keyword : String) :
    GivesArgs (log.keyedCondition config clause keyword) (contributions.clauseValues clause) := by
  have calls := Ensures.mapM (h.operandsOf clause)
    (f := Condition.anyOf config) (T := fun c cs => Condition.optionArgs c = callValues clause cs)
    fun ts cs hcs => by
      rw [callValues_uniform .mapping uniform]
      exact Term.Contributes.anyOf config hcs
  refine calls.bind fun conditions hconditions => ?_
  have all : Condition.optionArgs (Condition.conjoin (conditions.filterMap id)) =
      contributions.clauseValues clause := by
    rw [Condition.optionArgs_conjoin, Condition.flatMap_args_filterMap,
      flatMap_eq_of_forall₂ hconditions, clauseValues]
  rw [← all]
  split
  · rename_i none
    exact .ok (by rw [none]; rfl)
  · rename_i c some
    exact .ok (by rw [some, Fragment.args_headed, Condition.args_render]; rfl)

theorem keyedLast (h : log.Contributes contributions) (clause : Clause) (keyword : String) :
    GivesArgs (log.keyedLast clause keyword) (contributions.lastOperandValues clause) := by
  have last : Option.Rel Term.Contributes ((log.operandsOf clause).getLast?.bind List.head?)
      ((contributions.operandsOf clause).getLast?.bind List.head?) :=
    rel_getLast?_head? (h.operandsOf clause)
  unfold Log.keyedLast Log.lastOperandValues
  generalize (log.operandsOf clause).getLast?.bind List.head? = t,
    (contributions.operandsOf clause).getLast?.bind List.head? = c at last
  cases last with
  | some h =>
    refine h.operand.map fun f hf => ?_
    rw [Fragment.args_headed, hf]
    rfl
  | none => exact .ok rfl

theorem cteItem {e : String × Term} {c : String × Contribution} (h : EntryContributes e c) :
    GivesArgs (Log.cteItem e) (c.2.values .operand) := by
  apply Ensures.bind_any
  intro name
  refine (h.2.body .operand).bind fun f hf => .ok ?_
  rw [Fragment.args_append, Fragment.args_ofSql, Fragment.args_parenthesized, hf]
  rfl

/-- The entries of the mapping that a call gives. -/
theorem cteItems_mapping {t : Term} {c : Contribution} (h : t.Contributes c) :
    Ensures (Log.cteItems [t]) fun fs => fs.flatMap Fragment.args = c.values .mapping := by
  rcases h.entries? (.inl rfl) with ⟨r, entries, hr, hentries, hvalues⟩ | ⟨hr, -⟩
  · rw [cteItems_of_entries hr, hvalues]
    have items := Ensures.mapM hentries fun _ _ => cteItem
    exact items.mono fun fs hfs => flatMap_eq_of_forall₂ hfs
  · rw [cteItems_of_none hr]
    exact .error _

/-- The body behind a name, which itself has no values. -/
theorem cteItems_pair {t t' : Term} {c c' : Contribution} (name : t.Contributes c)
    (body : t'.Contributes c') :
    Ensures (Log.cteItems [t, t']) fun fs =>
      fs.flatMap Fragment.args = c.values .mapping ++ c'.values .operand := by
  cases name with
  | raw sql =>
    have item : GivesArgs (Log.cteItem (sql, t')) (c'.values .operand) :=
      cteItem (c := (sql, c')) ⟨rfl, body⟩
    refine item.map fun f hf => ?_
    simp [hf, Contribution.ofValues]
  | value | default | template | query | statement | record | predicate => exact .error _

theorem cteItems {ts : List Term} {cs : List Contribution}
    (h : List.Forall₂ Term.Contributes ts cs) :
    Ensures (Log.cteItems ts) fun fs => fs.flatMap Fragment.args = callValues .cte cs := by
  cases h with
  | nil => exact .error _
  | cons head tail =>
    cases tail with
    | nil => simpa [callValues, Clause.place] using cteItems_mapping head
    | cons second rest =>
      cases rest with
      | nil => simpa [callValues, Clause.place] using cteItems_pair head second
      | cons third others =>
        rw [cteItems_long]
        exact .error _

theorem ctes (h : log.Contributes contributions) :
    GivesArgs log.ctes (contributions.clauseValues .cte) := by
  have calls := h.operandsOf .cte
  unfold Log.ctes clauseValues
  generalize log.operandsOf .cte = tss, contributions.operandsOf .cte = css at calls
  cases calls with
  | nil => exact .ok rfl
  | cons head tail =>
    refine (Ensures.mapM (.cons head tail) fun _ _ => cteItems).map fun groups hgroups => ?_
    rw [Fragment.args_headed, Fragment.args_join, flatMap_flatten,
      flatMap_eq_of_forall₂ hgroups]

theorem insertion (h : log.Contributes contributions) :
    GivesArgs (log.insertion config) (contributions.targetValues ++
      (contributions.lastCallValues .columns ++ contributions.rowValues config)) := by
  refine (Source.Contributes.splitTarget (Source.Contributes.ofLog h)).bind fun s hs => ?_
  simp only
  split_ifs
  · exact .error _
  · have columns : log.uses (fun clause => clause = .columns) = false →
        contributions.operandsOf .columns = [] := by
      intro unused
      rw [uses_eq, h.clauses_eq] at unused
      simp only [List.any_map, List.any_eq_false, Function.comp_apply, decide_eq_true_eq] at unused
      rw [Log.operandsOf, List.filter_eq_nil_iff.2 (by simpa using unused)]
      rfl
    refine hs.1.bind fun item hitem => ?_
    refine (Insertion.contributes_list h (h.allOperands .rows) columns).bind fun rows hrows => ?_
    refine .ok ?_
    rw [Fragment.args_append, Fragment.args_push, Fragment.args_headed, hitem, hrows]
    rfl

theorem assignmentList (h : log.Contributes contributions) :
    GivesArgs (Assignment.list config log) (contributions.clauseValues .assignment) := by
  have ofTerm (t : Term) (c : Contribution) (htc : t.Contributes c) :
      Ensures (Assignment.ofTerm config t) fun fs =>
        fs.flatMap Fragment.args = c.values .mapping := by
    unfold Assignment.ofTerm
    rcases htc.entries? (.inl rfl) with ⟨r, entries, hr, hentries, hvalues⟩ | ⟨hr, -⟩
    · rw [hr, hvalues]
      exact (Ensures.mapM hentries fun _ _ => Term.Contributes.equation config).mono fun fs hfs =>
        flatMap_eq_of_forall₂ hfs
    · rw [hr]
      exact (htc.body .mapping).map fun f hf => by simp [hf]
  rw [clauseValues_uniform .assignment .mapping fun _ => rfl]
  refine (Ensures.mapM (h.allOperands .assignment) ofTerm).bind fun groups hgroups => ?_
  simp only
  split_ifs
  · exact .error _
  · exact .ok (by rw [Fragment.args_join, flatMap_flatten, flatMap_eq_of_forall₂ hgroups])

theorem assignment (h : log.Contributes contributions) :
    GivesArgs (log.assignment config)
      (contributions.targetValues ++ contributions.clauseValues .assignment) := by
  refine (Source.Contributes.splitTarget (Source.Contributes.ofLog h)).bind fun s hs => ?_
  refine h.assignmentList.bind fun assignments hassignments => hs.1.bind fun item hitem => .ok ?_
  rw [Fragment.args_append, Fragment.args_push, Fragment.args_headed, Fragment.args_headed, hitem,
    hassignments]
  rfl

theorem otherSources (h : log.Contributes contributions) :
    GivesArgs (log.otherSources config) contributions.otherSourceValues := by
  refine (Source.Contributes.splitTarget (Source.Contributes.ofLog h)).bind fun s hs => ?_
  refine (Source.Contributes.list hs.2).bind fun sources hsources => .ok ?_
  rw [Fragment.args_headedUnlessEmpty, hsources]
  rfl

theorem deletion (h : log.Contributes contributions) :
    GivesArgs (log.deletion config)
      (contributions.targetValues ++ contributions.otherSourceValues) := by
  refine (Source.Contributes.splitTarget (Source.Contributes.ofLog h)).bind fun s hs => ?_
  refine hs.1.bind fun item hitem => (Source.Contributes.list hs.2).bind fun beside hbeside =>
    .ok ?_
  rw [Fragment.args_append, Fragment.args_headed, Fragment.args_headedUnlessEmpty, hitem, hbeside]
  rfl

/-- The parameters of a section are its values. -/
theorem text (h : log.Contributes contributions) (section' : Section) :
    GivesArgs (section'.text config log) (contributions.sectionValues config section') := by
  cases section' with
  | ctes => exact h.ctes
  | selection =>
    have columns := Term.Contributes.list (h.allOperands .output)
    rw [← clauseValues_uniform .output .item fun _ => rfl] at columns
    refine columns.map fun f hf => ?_
    split_ifs with empty
    · rw [Fragment.args_ofSql, ← Fragment.args_eq_nil_of_isEmpty empty, hf]
      rfl
    · rw [Fragment.args_headed, hf]
      rfl
  | sources =>
    refine (Source.Contributes.list (Source.Contributes.ofLog h)).map fun f hf => ?_
    rw [Fragment.args_headedUnlessEmpty, hf]
    rfl
  | filter => exact h.keyedCondition (fun _ => rfl) _
  | grouping => exact h.keyedList (fun _ => rfl) _
  | having => exact h.keyedCondition (fun _ => rfl) _
  | ordering => exact h.keyedList (fun _ => rfl) _
  | limit => exact h.keyedLast _ _
  | offset => exact h.keyedLast _ _
  | insertion => exact h.insertion
  | assignment => exact h.assignment
  | otherSources => exact h.otherSources
  | deletion => exact h.deletion
  | returning => exact h.keyedList (fun _ => rfl) _
  | manual =>
    have parts := Ensures.mapM (h.allOperands .manual) fun t c (htc : t.Contributes c) =>
      htc.body .operand
    refine parts.map fun fs hfs => ?_
    rw [Fragment.args_join, flatMap_eq_of_forall₂ hfs]
    exact (clauseValues_uniform .manual .operand (fun _ => rfl) contributions).symm

/-- The parameters of a statement are the values of its log in order. -/
theorem statement (h : log.Contributes contributions) :
    Ensures (Log.statement config log) fun s => s.2.args = contributions.traversal config := by
  unfold Log.statement Log.traversal
  rw [statementKind_eq h.clauses_eq]
  cases contributions.statementKind with
  | error e => exact .error e
  | ok kind =>
    simp only [bind, Except.bind]
    split_ifs
    · exact .error _
    · have sections : Ensures (kind.sections.mapM (Section.text config log)) fun fs =>
          List.Forall₂ (fun f s => f.args = contributions.sectionValues config s) fs
            kind.sections := Ensures.mapM_same fun s => h.text s
      refine sections.bind fun texts htexts => .ok ?_
      rw [Fragment.args_join, flatMap_eq_of_forall₂ htexts, flatMap_sectionValues]

end Contributes

end Log

/-- Reading a statement back gives the arguments of its placeholders in the order of the text. -/
theorem args_toFragment (s : Statement) : GivesArgs s.toFragment s.placeholderValues := by
  have argument (digits : List Char) : Ensures (Statement.argument s.args.toArray digits)
      fun v => s.args[Text.digitsValue digits - 1]? = some v := by
    unfold Statement.argument
    simp only
    split_ifs
    · exact .error _
    · split
      · exact .error _
      · rename_i n number
        split
        · rename_i v found
          exact .ok (by simpa [number] using found)
        · exact .error _
  have piece (token : Sql.Token) : Ensures (Statement.piece s.args.toArray token)
      fun p => (Fragment.mk [p]).args = (s.tokenValue token).toList := by
    cases token with
    | text run => exact .ok rfl
    | placeholder digits =>
      refine (argument digits).map fun v hv => ?_
      rw [Statement.tokenValue, hv]
      rfl
  have pieces (tokens : List Sql.Token) : Ensures (tokens.mapM (Statement.piece s.args.toArray))
      fun ps => (Fragment.mk ps).args = tokens.filterMap s.tokenValue := by
    induction tokens with
    | nil => exact .ok rfl
    | cons token tokens ih =>
      simp only [List.mapM_cons]
      refine (piece token).bind fun p hp => ih.bind fun ps hps => .ok ?_
      have split : (Fragment.mk (p :: ps)).args = (Fragment.mk [p]).args ++ (Fragment.mk ps).args :=
        List.filterMap_append (l := [p])
      rw [split, hp, hps, List.filterMap_cons]
      cases s.tokenValue token <;> rfl
  exact (pieces _).map fun ps hps => (Fragment.args_ofPieces ps).trans hps

/-- What the operands of a list contribute, term by term. -/
theorem forall₂_contributes {xs : List Operand} {config : Config}
    (h : ∀ x ∈ xs, (x.term config).Contributes x.contribution) :
    List.Forall₂ Term.Contributes (xs.map (Operand.term config))
      (xs.map Operand.contribution) := by
  rw [List.forall₂_map_left_iff, List.forall₂_map_right_iff]
  exact List.forall₂_same.2 h

/-- The log of a query, when its operands contribute. -/
theorem contributes_log {q : Query Operand}
    (h : ∀ call ∈ q.history, ∀ x ∈ call.operands, (x.term q.config).Contributes x.contribution) :
    Log.Contributes (q.log.map (Call.map (Operand.term q.config)))
      (q.log.map (Call.map Operand.contribution)) := by
  unfold Log.Contributes
  rw [List.forall₂_map_left_iff, List.forall₂_map_right_iff]
  refine List.forall₂_same.2 fun call hcall => ⟨rfl, forall₂_contributes ?_⟩
  exact h call (by simpa [Query.log] using hcall)

/-- An operand contributes what its term yields, under every configuration. -/
theorem Operand.contributes (x : Operand) (config : Config) :
    (x.term config).Contributes x.contribution := by
  induction x using Operand.induction generalizing config with
  | value v => simpa [Operand.term, Operand.contribution] using .value v
  | default => simpa [Operand.term, Operand.contribution] using .default
  | raw sql => simpa [Operand.term, Operand.contribution] using .raw sql
  | template parts args ih =>
    rw [term_template, Operand.contribution, Template.traversal, operandContributions_eq]
    have operands := forall₂_contributes fun x hx => ih x hx config
    exact .template (Term.Contributes.render parts operands)
  | query subconfig history ih =>
    rw [term_query, Operand.contribution, Query.statement_eq_map, Query.traversal_eq]
    have log := contributes_log (q := ⟨subconfig, history⟩) fun call hcall x hx =>
      ih call hcall x hx subconfig
    exact .query (log.statement.map fun _ h => h)
  | statement s =>
    rw [term_statement, Operand.contribution]
    exact .statement (args_toFragment s)
  | record entries ih =>
    rw [term_record, Operand.contribution, Record.contributions, entryContributions_eq]
    refine .record (by simp [Function.comp_def]) fun e c hec => ?_
    rw [List.zip_map', List.mem_map] at hec
    obtain ⟨entry, hentry, heq⟩ := hec
    cases heq
    exact ih entry hentry config
  | not x ih =>
    rw [term_not, Operand.contribution, Predicate.traversal]
    exact .predicate (Term.Contributes.noneOf config (ih config))
  | all xs ih =>
    rw [term_all, Operand.contribution, Predicate.traversal, operandContributions_eq]
    have operands := forall₂_contributes fun x hx => ih x hx config
    exact .predicate (Term.Contributes.allOf config operands)
  | any xs ih =>
    rw [term_any, Operand.contribution, Predicate.traversal, operandContributions_eq]
    have operands := forall₂_contributes fun x hx => ih x hx config
    exact .predicate (Term.Contributes.anyOf config operands)

namespace Query

/-- The parameters of the text of a query are its values in order. -/
theorem args_statement (q : Query Operand) :
    Ensures q.statement fun s => s.2.args = q.traversal := by
  rw [statement_eq_map, traversal_eq]
  exact (contributes_log fun _ _ x _ => x.contributes q.config).statement

/-- The arguments of a compiled query are its values in the order of the traversal. -/
theorem args_compile (q : Query Operand) {c : Compiled} (h : q.compile = .ok c) :
    c.statement.args = q.traversal := by
  have args : Ensures q.compile fun c => c.statement.args = q.traversal :=
    q.args_statement.map fun _ h => h
  exact args c h

/-- The paid orders of some members, of which the second limit counts. -/
def paidOrders (members : Query Operand) : Query Operand :=
  ((Query.new Config.identity).table "orders").limit (.value (.int 1))
    |>.filter (.record ⟨[("member", .query members), ("paid", .value (.bool true))]⟩)
    |>.filter (.statement ⟨"state = $2 or $1 < total", [.int 40, .text "open"]⟩)
    |>.limit (.value (.int 2))

theorem args_compile_paidOrders :
    let q := paidOrders (((Query.new Config.identity).table "members").filter
      (.record ⟨[("name", .value (.text "Ann"))]⟩))
    ∃ c, q.compile = .ok c ∧ c.statement.args = q.traversal ∧
      q.traversal = [.text "Ann", .bool true, .text "open", .int 40, .int 2] := by
  exact ⟨_, rfl, args_compile _ rfl, rfl⟩

end Query

end SqlBuilder
