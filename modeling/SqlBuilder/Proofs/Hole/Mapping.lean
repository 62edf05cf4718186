import SqlBuilder.Proofs.Composition
import SqlBuilder.Proofs.Hole.Context
import SqlBuilder.Proofs.Traversal.Section

/-!
# JSON objects as mappings

Where mappings are read, a JSON object is the record of its members. So a log may be unfolded: every
JSON object that stands where a mapping is read is replaced by its record, and no section of the
statement changes (`Section.text_unfolded`). With this a context whose hole reads mappings does not
tell an object from its record (`Query.Context.statement_object`).
-/

namespace SqlBuilder

variable (config : Config)

/-- The term with a JSON object replaced by the mapping that it is. -/
def Term.asMapping (t : Term) : Term :=
  match t.entries? with
  | some r => .record r
  | none => t

/-- The operands of a call with the objects replaced that are read as mappings. -/
def Clause.unfolded (clause : Clause) (ts : List Term) : List Term :=
  ts.mapIdx fun i t => if clause.place i = .mapping then t.asMapping else t

/-- The call with the objects replaced that are read as mappings. -/
def Call.unfolded (call : Call Term) : Call Term :=
  ⟨call.clause, call.clause.unfolded call.operands⟩

/-! ### Terms -/

namespace Term

theorem asMapping_of_entries {t : Term} {r : Record Term} (h : t.entries? = some r) :
    t.asMapping = .record r := by
  rw [asMapping, h]

theorem asMapping_of_none {t : Term} (h : t.entries? = none) : t.asMapping = t := by
  rw [asMapping, h]

end Term

namespace Condition

/-- A condition reads an object like its record. -/
theorem ofTerm_asMapping (t : Term) : ofTerm config t.asMapping = ofTerm config t := by
  cases h : t.entries? with
  | some r =>
    rw [Term.asMapping_of_entries h]
    simp only [ofTerm, h]
    rfl
  | none => rw [Term.asMapping_of_none h]

theorem anyOf_asMapping (ts : List Term) :
    anyOf config (ts.map Term.asMapping) = anyOf config ts := by
  simp only [anyOf, ofTerms, List.mapM_map, Function.comp_def, ofTerm_asMapping]

end Condition

/-- So does an assignment. -/
theorem Assignment.ofTerm_asMapping (t : Term) :
    ofTerm config t.asMapping = ofTerm config t := by
  cases h : t.entries? with
  | some r =>
    rw [Term.asMapping_of_entries h]
    simp only [ofTerm, h]
    rfl
  | none => rw [Term.asMapping_of_none h]

/-! ### Calls -/

namespace Clause

/-- Where all operands are read as mappings, all objects are replaced. -/
theorem unfolded_of_mapping (clause : Clause) (h : ∀ i, clause.place i = .mapping)
    (ts : List Term) : clause.unfolded ts = ts.map Term.asMapping := by
  simp only [unfolded, h, if_true]
  exact mapIdx_eq_map Term.asMapping ts

/-- Where none is, the call stays as it is. -/
theorem unfolded_of_ne (clause : Clause) (other : ∀ i, decide (clause.place i = .mapping) = false)
    (ts : List Term) : clause.unfolded ts = ts := by
  simp only [unfolded, of_decide_eq_false (other _), if_false]
  exact (mapIdx_eq_map id ts).trans (List.map_id ts)

/-- A join reads its conditions as mappings, but not its target. -/
theorem unfolded_join (kind : Join) (t : Term) (ts : List Term) :
    (join kind).unfolded (t :: ts) = t :: ts.map Term.asMapping := by
  rw [unfolded, List.mapIdx_cons]
  exact congrArg (t :: ·) (mapIdx_eq_map Term.asMapping ts)

/-- The first operand of `with` may be a mapping of bodies, the second one may not. -/
theorem unfolded_cte (t : Term) (ts : List Term) : cte.unfolded (t :: ts) = t.asMapping :: ts := by
  rw [unfolded, List.mapIdx_cons]
  exact congrArg (t.asMapping :: ·) ((mapIdx_eq_map id ts).trans (List.map_id ts))

end Clause

/-- An object of bodies is read like its record; in the place of an alias both are refused. -/
theorem Log.cteItems_unfolded (ts : List Term) :
    cteItems (Clause.cte.unfolded ts) = cteItems ts := by
  match ts with
  | [] => rfl
  | t :: ts =>
    rw [Clause.unfolded_cte]
    cases h : t.entries? with
    | none => rw [Term.asMapping_of_none h]
    | some r =>
      rw [Term.asMapping_of_entries h]
      match ts with
      | [] =>
        rw [Log.cteItems_of_entries h]
        rfl
      | [u] => cases t <;> first | rfl | cases h
      | u :: w :: ts => rw [cteItems_long, cteItems_long]

/-! ### Sections -/

namespace Source

/-- The source with the objects replaced that are read as mappings. -/
def unfolded : Source → Source
  | .table t => .table t
  | .join kind ts => .join kind ((Clause.join kind).unfolded ts)

theorem ofCall_unfolded (call : Call Term) : ofCall call.unfolded = (ofCall call).map unfolded := by
  obtain ⟨clause, ts⟩ := call
  cases clause with
  | table =>
    simp only [Call.unfolded, ofCall, List.map_map, Clause.unfolded_of_ne .table fun _ => rfl]
    rfl
  | join kind => rfl
  | _ => rfl

theorem ofLog_unfolded (log : Log Term) :
    ofLog (log.map Call.unfolded) = (ofLog log).map unfolded := by
  rw [ofLog, List.flatMap_map, ofLog, List.map_flatMap]
  exact List.flatMap_congr fun call _ => ofCall_unfolded call

/-- The conditions of a join are the only operands of a source that are read as mappings. -/
theorem joinText_unfolded (kind : Join) (ts : List Term) :
    joinText config kind ((Clause.join kind).unfolded ts) = joinText config kind ts := by
  cases ts with
  | nil => rfl
  | cons t ts => rw [Clause.unfolded_join, joinText, joinText, Condition.anyOf_asMapping]

theorem extend_unfolded (before : List Fragment) (s : Source) :
    extend config before s.unfolded = extend config before s := by
  cases s with
  | table t => rfl
  | join kind ts => rw [unfolded, extend, extend, joinText_unfolded]

theorem list_unfolded (sources : List Source) :
    list config (sources.map unfolded) = list config sources := by
  simp only [list, List.foldlM_map, extend_unfolded]

/-- The target comes first as before, with the unfolded sources beside it. -/
theorem splitTarget_unfolded (sources : List Source) :
    splitTarget (sources.map unfolded) =
      (splitTarget sources).map fun parts => (parts.1, parts.2.map unfolded) := by
  cases sources with
  | nil => rfl
  | cons s rest => cases s <;> rfl

end Source

namespace Log

variable (log : Log Term) (clause : Clause)

/-- The calls of a clause are unfolded each on its own. -/
theorem operandsOf_unfolded :
    operandsOf (log.map Call.unfolded) clause = (log.operandsOf clause).map clause.unfolded := by
  rw [operandsOf, List.filter_map, List.map_map, operandsOf, List.map_map]
  refine List.map_congr_left fun call given => ?_
  have same : call.clause = clause := of_decide_eq_true (List.mem_filter.1 given).2
  rw [← same]
  rfl

/-- A clause that reads no mappings keeps its operands. -/
theorem operandsOf_unfolded_of_ne (other : ∀ i, decide (clause.place i = .mapping) = false) :
    operandsOf (log.map Call.unfolded) clause = log.operandsOf clause := by
  rw [operandsOf_unfolded, List.map_congr_left fun ts _ => clause.unfolded_of_ne other ts,
    List.map_id']

theorem allOperands_unfolded_of_ne (other : ∀ i, decide (clause.place i = .mapping) = false) :
    allOperands (log.map Call.unfolded) clause = log.allOperands clause := by
  rw [allOperands, operandsOf_unfolded_of_ne log clause other, allOperands]

theorem keyedList_unfolded (other : ∀ i, decide (clause.place i = .mapping) = false)
    (keyword : String) :
    keyedList (log.map Call.unfolded) clause keyword = log.keyedList clause keyword := by
  rw [keyedList, allOperands_unfolded_of_ne log clause other, keyedList]

theorem keyedLast_unfolded (other : ∀ i, decide (clause.place i = .mapping) = false)
    (keyword : String) :
    keyedLast (log.map Call.unfolded) clause keyword = log.keyedLast clause keyword := by
  rw [keyedLast, operandsOf_unfolded_of_ne log clause other, keyedLast]

/-- A clause of conditions reads all its operands as mappings. -/
theorem keyedCondition_unfolded (h : ∀ i, clause.place i = .mapping)
    (keyword : String) :
    keyedCondition config (log.map Call.unfolded) clause keyword =
      log.keyedCondition config clause keyword := by
  rw [keyedCondition, operandsOf_unfolded, keyedCondition, List.mapM_map]
  simp only [Function.comp_def, clause.unfolded_of_mapping h, Condition.anyOf_asMapping]

theorem ctes_unfolded : ctes (log.map Call.unfolded) = log.ctes := by
  rw [ctes, operandsOf_unfolded, ctes]
  cases log.operandsOf .cte with
  | nil => rfl
  | cons call calls =>
    simp only [List.map_cons, List.mapM_cons, List.mapM_map, Function.comp_def, cteItems_unfolded]

/-- Unfolding keeps the clauses, and with them the kind of the statement. -/
theorem map_clause_unfolded : (log.map Call.unfolded).map Call.clause = log.map Call.clause := by
  rw [List.map_map]
  rfl

/-- Rows stay as they are: an object in the place of a row has become a mapping when the row was
recorded. -/
theorem insertionList_unfolded :
    Insertion.list config (log.map Call.unfolded) = Insertion.list config log := by
  have step (p : Insertion.Positional) (call : Call Term) : p.step call.unfolded = p.step call := by
    obtain ⟨clause, ts⟩ := call
    cases clause with
    | columns => exact congrArg p.declare (Clause.unfolded_of_ne .columns (fun _ => rfl) ts)
    | rows => exact congrArg p.addRow (Clause.unfolded_of_ne .rows (fun _ => rfl) ts)
    | _ => rfl
  have positional :
      Insertion.ofPositional (log.map Call.unfolded) = Insertion.ofPositional log := by
    simp only [Insertion.ofPositional, List.foldlM_map, step]
  simp only [Insertion.list, operandsOf_unfolded_of_ne log .rows fun _ => rfl,
    allOperands_unfolded_of_ne log .rows fun _ => rfl, positional, uses_eq, map_clause_unfolded]

theorem insertion_unfolded : insertion config (log.map Call.unfolded) = log.insertion config := by
  simp only [insertion, Source.ofLog_unfolded, Source.splitTarget_unfolded, insertionList_unfolded]
  cases Source.splitTarget (Source.ofLog log) with
  | error e => rfl
  | ok parts => simp only [Except.map, bind, Except.bind, List.isEmpty_map]

/-- Only the assignments read mappings; the target beside them is an item. -/
theorem assignment_unfolded :
    assignment config (log.map Call.unfolded) = log.assignment config := by
  have list : Assignment.list config (log.map Call.unfolded) = Assignment.list config log := by
    simp only [Assignment.list, allOperands, operandsOf_unfolded,
      List.map_congr_left fun ts _ => Clause.unfolded_of_mapping .assignment (fun _ => rfl) ts]
    rw [← List.map_flatten, List.mapM_map]
    simp only [Function.comp_def, Assignment.ofTerm_asMapping]
  simp only [assignment, Source.ofLog_unfolded, Source.splitTarget_unfolded, list]
  cases Source.splitTarget (Source.ofLog log) <;> rfl

theorem otherSources_unfolded :
    otherSources config (log.map Call.unfolded) = log.otherSources config := by
  simp only [otherSources, Source.ofLog_unfolded, Source.splitTarget_unfolded]
  cases Source.splitTarget (Source.ofLog log) with
  | error e => rfl
  | ok parts =>
    simp only [Except.map, bind, Except.bind, Source.list_unfolded]

theorem deletion_unfolded : deletion config (log.map Call.unfolded) = log.deletion config := by
  simp only [deletion, Source.ofLog_unfolded, Source.splitTarget_unfolded]
  cases Source.splitTarget (Source.ofLog log) with
  | error e => rfl
  | ok parts =>
    simp only [Except.map, bind, Except.bind, Source.list_unfolded]

end Log

/-- No section of a statement changes when its log is unfolded. -/
theorem Section.text_unfolded (log : Log Term) (s : Section) :
    s.text config (log.map Call.unfolded) = s.text config log := by
  cases s with
  | ctes => exact log.ctes_unfolded
  | selection => rw [text, Log.allOperands_unfolded_of_ne log _ fun _ => rfl, text]
  | sources => rw [text, Source.ofLog_unfolded, Source.list_unfolded, text]
  | filter => exact log.keyedCondition_unfolded config _ (fun _ => rfl) _
  | having => exact log.keyedCondition_unfolded config _ (fun _ => rfl) _
  | grouping => exact log.keyedList_unfolded _ (fun _ => rfl) _
  | ordering => exact log.keyedList_unfolded _ (fun _ => rfl) _
  | returning => exact log.keyedList_unfolded _ (fun _ => rfl) _
  | limit => exact log.keyedLast_unfolded _ (fun _ => rfl) _
  | offset => exact log.keyedLast_unfolded _ (fun _ => rfl) _
  | insertion => exact log.insertion_unfolded config
  | assignment => exact log.assignment_unfolded config
  | otherSources => exact log.otherSources_unfolded config
  | deletion => exact log.deletion_unfolded config
  | manual => rw [text, Log.allOperands_unfolded_of_ne log _ fun _ => rfl, text]

/-- Neither does the statement, whose kind and target do not depend on mappings. -/
theorem Log.statement_unfolded (log : Log Term) :
    Log.statement config (log.map Call.unfolded) = Log.statement config log := by
  have target : target? (log.map Call.unfolded) = log.target? := by
    rw [target?, operandsOf_unfolded_of_ne log _ fun _ => rfl, target?]
  have sections : Section.text config (log.map Call.unfolded) = Section.text config log :=
    funext (Section.text_unfolded config log)
  rw [statement, statement, statementKind_eq (map_clause_unfolded log), target, sections]

/-! ### Contexts -/

/-- Terms that are the same at a place: where mappings are read, an object and its record are. -/
def Term.SameAt (place : Place) (t u : Term) : Prop :=
  t = u ∨ place = .mapping ∧ t.asMapping = u.asMapping

namespace Term.SameAt

variable {t u : Term} {place : Place}

/-- Where no mapping is read, only equal terms are the same. -/
theorem eq (h : t.SameAt place u) (other : place ≠ .mapping) : t = u :=
  h.resolve_right fun reads => other reads.1

/-- No condition tells apart what is the same where mappings are read. -/
theorem ofTerm (h : t.SameAt .mapping u) :
    Condition.ofTerm config t = Condition.ofTerm config u := by
  obtain rfl | ⟨-, same⟩ := h
  · rfl
  · rw [← Condition.ofTerm_asMapping, same, Condition.ofTerm_asMapping]

end Term.SameAt

/-- The operand of an entry is nowhere read as a mapping itself. -/
theorem Place.entry_ne_mapping (place : Place) : place.entry ≠ .mapping := by
  cases place <;> nofun

/-- No statement tells apart what is the same in the hole of its log. -/
theorem Log.Frame.statement_congr (F : Frame Term) {t u : Term} (h : t.SameAt F.place u) :
    Log.statement config (F.fill t) = Log.statement config (F.fill u) := by
  obtain rfl | ⟨reads, same⟩ := h
  · rfl
  · have call : F.clause.unfolded (F.before ++ t :: F.after) =
        F.clause.unfolded (F.before ++ u :: F.after) := by
      rw [place] at reads
      simp only [Clause.unfolded, List.mapIdx_append, List.mapIdx_cons, Nat.zero_add, reads,
        if_true, same]
    have filled : (F.fill t).map Call.unfolded = (F.fill u).map Call.unfolded := by
      simp only [fill, List.map_append, List.map_cons, Call.unfolded, call]
    rw [← Log.statement_unfolded, filled, Log.statement_unfolded]

section

variable (members : Record Json)

/-- An object and the record of its members are the same where mappings are read. -/
theorem sameAt_object :
    ((Operand.value (.json (.object members))).term config).SameAt .mapping
      ((Operand.record (Record.ofMembers members)).term config) := by
  refine .inr ⟨rfl, ?_⟩
  rw [Record.ofMembers, Record.map, term_record]
  simp [Operand.term, Term.asMapping, Term.entries?, Record.map]

/-- What a context gives for an object and for its record. -/
abbrev Operand.Context.Same (place : Place) (C : Operand → Operand) : Prop :=
  ∀ config : Config, ((C (.value (.json (.object members)))).term config).SameAt place
    ((C (.record (Record.ofMembers members))).term config)

/-- A query with a hole that reads mappings does not tell an object from its record. -/
theorem Query.Context.statement_object {Q : Operand → Query Operand}
    (h : Query.Context False .mapping Q) :
    (Q (.value (.json (.object members)))).statement =
      (Q (.record (Record.ofMembers members))).statement := by
  -- Operands with a hole give the same term in the place that they are read from, and queries with
  -- a hole give the same statement. The one needs the other, in sub-queries and in calls.
  refine Query.Context.rec
    (motive_1 := fun place C _ => Operand.Context.Same members place C)
    (motive_2 := fun Q _ => (Q (.value (.json (.object members)))).statement =
      (Q (.record (Record.ofMembers members))).statement)
    ?hole ?slot ?entry ?not ?all ?any ?query ?call ?row ?cell h
  case hole => exact fun config => sameAt_object config members
  case slot =>
    intro place C parts before after _ ih config
    have inner := (ih config).eq nofun
    exact .inl (by simp only [term_template, List.map_append, List.map_cons, inner])
  case entry =>
    intro place C before key after _ _ ih config
    have inner := (ih config).eq place.entry_ne_mapping
    exact .inl (by simp only [term_record, List.map_append, List.map_cons, inner])
  case not =>
    intro place C _ ih config
    exact .inl (by simp only [term_not, Condition.noneOf, (ih config).ofTerm])
  case all =>
    intro place C before after _ ih config
    have inner := (ih config).ofTerm config
    exact .inl (by
      simp only [term_all, Condition.allOf, List.map_append, List.map_cons,
        Condition.ofTerms_exchange config inner])
  case any =>
    intro place C before after _ ih config
    have inner := (ih config).ofTerm config
    exact .inl (by
      simp only [term_any, Condition.anyOf, List.map_append, List.map_cons,
        Condition.ofTerms_exchange config inner])
  case query =>
    intro place Q _ ih config
    exact .inl (by simp only [term_query, ih])
  case call =>
    intro C config F _ _ ih
    rw [Query.statement_fill, Query.statement_fill]
    exact Log.Frame.statement_congr config _ (F.place_map _ ▸ ih config)
  case row => exact fun config F _ _ => rfl
  case cell =>
    intro C config F _ before key after _ _ ih
    have inner := (ih config).eq nofun
    simp only [Query.statement_fill, term_record, List.map_append, List.map_cons, inner]

end

end SqlBuilder
