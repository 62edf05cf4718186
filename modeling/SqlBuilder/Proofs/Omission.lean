import SqlBuilder.Proofs.Composition
import SqlBuilder.Proofs.Emptiness
import SqlBuilder.Proofs.Forms
import SqlBuilder.Query

/-!
# What is absent is left out

A statement is written heading by heading. A heading that the calls contribute nothing to is left
out, and any other one is its keyword with some text behind it (`Query.headings_written`). The
exceptions are the headings that go by the calls and not by the text that comes of them: `with`
behind which all mappings are empty, a condition, a limit or an offset that is SQL of the caller
without text, and a target without text (`Heading.Bare`, `Query.keyword_alone`).
-/

namespace SqlBuilder

/-! ### Headings -/

/-- The keywords that texts stand behind. -/
inductive Heading
  | ctes
  | selection
  | sources
  | filter
  | grouping
  | having
  | ordering
  | limit
  | offset
  | insertTarget
  | updateTarget
  | assignments
  | updateSources
  | deleteTarget
  | deleteSources
  | returning

/-- The headings of a section, in the order of the text. -/
def Section.headings : Section → List Heading
  | .ctes => [.ctes]
  | .selection => [.selection]
  | .sources => [.sources]
  | .filter => [.filter]
  | .grouping => [.grouping]
  | .having => [.having]
  | .ordering => [.ordering]
  | .limit => [.limit]
  | .offset => [.offset]
  | .insertion => [.insertTarget]
  | .assignment => [.updateTarget, .assignments]
  | .otherSources => [.updateSources]
  | .deletion => [.deleteTarget, .deleteSources]
  | .returning => [.returning]
  | .manual => []

/-- A table that has no text in a list of sources. -/
def Source.Hollow : Source → Prop
  | .table t => t.Hollow
  | .join .. => False

namespace Log

/-- The first operand of the last call of a clause. -/
def lastOperand? (log : Log Term) (clause : Clause) : Option Term :=
  (log.operandsOf clause).getLast?.bind List.head?

/-- The condition that the calls of a clause add up to. -/
def condition (config : Config) (log : Log Term) (clause : Clause) :
    Except Error (Option Condition) :=
  ((log.operandsOf clause).mapM (Condition.anyOf config)).map fun cs =>
    Condition.conjoin (cs.filterMap id)

end Log

namespace Heading

/-- The keyword of a heading. -/
def keyword : Heading → String
  | .ctes => "with"
  | .selection => "select"
  | .sources | .updateSources => "from"
  | .filter => "where"
  | .grouping => "group by"
  | .having => "having"
  | .ordering => "order by"
  | .limit => "limit"
  | .offset => "offset"
  | .insertTarget => "insert into"
  | .updateTarget => "update"
  | .assignments => "set"
  | .deleteTarget => "delete from"
  | .deleteSources => "using"
  | .returning => "returning"

/-- What is written where the calls contribute nothing. -/
def absent : Heading → Fragment
  | .selection => Fragment.ofSql "select *"
  | _ => Fragment.empty

/-- The calls contribute nothing to the heading: there are none, or all that they give is empty
lists, mappings without entries or operands that give no condition. -/
def Silent (config : Config) (log : Log Term) : Heading → Prop
  | .ctes => log.operandsOf .cte = []
  | .selection | .returning => ∀ t ∈ log.allOperands .output, t.Hollow
  | .grouping => ∀ t ∈ log.allOperands .grouping, t.Hollow
  | .ordering => ∀ t ∈ log.allOperands .ordering, t.Hollow
  | .sources => ∀ s ∈ Source.ofLog log, s.Hollow
  | .updateSources | .deleteSources => ∀ s ∈ (Source.ofLog log).tail, s.Hollow
  | .filter => ∀ ts ∈ log.operandsOf .filter, ∀ t ∈ ts, Condition.ofTerm config t = .ok none
  | .having => ∀ ts ∈ log.operandsOf .having, ∀ t ∈ ts, Condition.ofTerm config t = .ok none
  | .limit => log.lastOperand? .limit = none
  | .offset => log.lastOperand? .offset = none
  | .insertTarget | .updateTarget | .deleteTarget | .assignments => False

/-- The calls demand the heading and have no text for it. -/
def Bare (config : Config) (log : Log Term) : Heading → Prop
  | .ctes => log.operandsOf .cte ≠ [] ∧
    ∀ ts ∈ log.operandsOf .cte, ∃ t, ts = [t] ∧ t.entries? = some ⟨[]⟩
  | .filter => ∃ f, log.condition config .filter = .ok (some (.expr f)) ∧ f.symbols = []
  | .having => ∃ f, log.condition config .having = .ok (some (.expr f)) ∧ f.symbols = []
  | .limit => ∃ t ∈ log.lastOperand? .limit, t.Blank
  | .offset => ∃ t ∈ log.lastOperand? .offset, t.Blank
  | .insertTarget | .updateTarget | .deleteTarget =>
    ∃ t, (Source.ofLog log).head? = some (.table t) ∧ t.Hollow
  | _ => False

variable (config : Config) (log : Log Term)

/-- The text of a heading: what nothing is contributed to is left out, and what has a text
stands behind the keyword. -/
inductive Written (h : Heading) : Fragment → Prop
  | omitted : h.Silent config log → Written h h.absent
  | bare : h.Bare config log → Written h (Fragment.headed h.keyword Fragment.empty)
  | full {body : Fragment} : ¬ h.Silent config log → ¬ h.Bare config log → body.symbols ≠ [] →
    Written h (Fragment.headed h.keyword body)

end Heading

/-- The text of a section: its headings one after the other. Only the rows of an `insert` and the
parts written by hand stand without a keyword. -/
def Section.Written (config : Config) (log : Log Term) (s : Section) (text : Fragment) : Prop :=
  ∃ parts rest, List.Forall₂ (Heading.Written config log) s.headings parts ∧
    (rest ≠ [] → s = .insertion ∨ s = .manual) ∧ text = Fragment.join (parts ++ rest) " "

variable {config : Config} {log : Log Term}

namespace Heading.Written

open Fragment (canonical_ofPieces)

variable {h : Heading}

theorem canonical {text : Fragment} (w : h.Written config log text) : text.Canonical := by
  cases w with
  | omitted =>
    cases h with
    | selection => exact canonical_ofPieces _
    | _ => exact canonical_ofPieces []
  | bare => exact canonical_ofPieces _
  | full => exact canonical_ofPieces _

/-- A body that is empty exactly if nothing is contributed may stand behind the keyword unless it
is empty. -/
theorem unlessEmpty {body : Fragment} (blank : body.BlankIff (h.Silent config log))
    (given : ¬ h.Bare config log) (absent : h.absent = Fragment.empty) :
    h.Written config log (Fragment.headedUnlessEmpty h.keyword body) := by
  unfold Fragment.headedUnlessEmpty
  split
  · rename_i empty
    rw [← absent]
    exact .omitted (blank.blank.1 (blank.canonical.isEmpty_iff.1 empty))
  · rename_i full
    have spoken : body.symbols ≠ [] := fun none => full (blank.canonical.isEmpty_iff.2 none)
    exact .full (fun silent => spoken (blank.blank.2 silent)) given spoken

/-- A body that the calls demand stands behind the keyword, empty or not. -/
theorem always {body : Fragment} (blank : body.BlankIff (h.Bare config log))
    (demanded : ¬ h.Silent config log) :
    h.Written config log (Fragment.headed h.keyword body) := by
  by_cases none : body.symbols = []
  · rw [blank.canonical.eq_empty none]
    exact .bare (blank.blank.1 none)
  · exact .full demanded (fun bare => none (blank.blank.2 bare)) none

end Heading.Written

/-! ### Sources -/

namespace Source

theorem spoken_extend {before : List Fragment} (spoken : ∃ f ∈ before, f.symbols ≠ [])
    (s : Source) : Ensures (extend config before s) fun texts => ∃ f ∈ texts, f.symbols ≠ [] := by
  obtain ⟨f, hf, some⟩ := spoken
  have first : before.isEmpty = false := by
    cases before with
    | nil => cases hf
    | cons => rfl
  cases s with
  | table t =>
    refine .map_any fun item => ⟨f, ?_, some⟩
    simp [first, hf]
  | join kind operands =>
    rw [extend, first]
    exact .map_any fun text => ⟨f, List.mem_cons_of_mem _ hf, some⟩

/-- As long as only hollow tables came, nothing is written. -/
theorem extend_nil {s : Source} (formed : ∀ t ∈ s.operands, t.Formed) :
    Ensures (extend config [] s) fun texts =>
      texts = [] ∧ s.Hollow ∨ (∃ f ∈ texts, f.symbols ≠ []) ∧ ¬ s.Hollow := by
  cases s with
  | table t =>
    refine (formed t List.mem_cons_self).item.map fun item blank => ?_
    cases empty : item.isEmpty with
    | true => exact .inl ⟨rfl, blank.blank.1 (blank.canonical.isEmpty_iff.1 empty)⟩
    | false =>
      have some : item.symbols ≠ [] := by
        intro none
        rw [blank.canonical.isEmpty_iff.2 none] at empty
        cases empty
      exact .inr ⟨⟨item, List.mem_cons_self, some⟩, fun hollow => some (blank.blank.2 hollow)⟩
  | join kind operands => exact .error _

/-- A list of sources has no text only if it consists of hollow tables. -/
theorem list_blankIff {sources : List Source} (formed : ∀ s ∈ sources, ∀ t ∈ s.operands, t.Formed) :
    Ensures (list config sources) fun f => f.BlankIff (∀ s ∈ sources, s.Hollow) := by
  have run : Ensures (sources.foldlM (extend config) []) fun texts =>
      texts = [] ∧ (∀ s ∈ sources, s.Hollow) ∨
        (∃ f ∈ texts, f.symbols ≠ []) ∧ ¬ ∀ s ∈ sources, s.Hollow := by
    induction sources with
    | nil => exact .ok (.inl ⟨rfl, nofun⟩)
    | cons s rest ih =>
      obtain ⟨first, others⟩ := List.forall_mem_cons.1 formed
      simp only [List.foldlM_cons, List.forall_mem_cons]
      refine (extend_nil first).bind fun texts outcome => ?_
      rcases outcome with ⟨rfl, hollow⟩ | ⟨spoken, given⟩
      · simpa [hollow] using ih others
      · refine (Ensures.foldlM (I := fun texts => ∃ f ∈ texts, f.symbols ≠ []) ?_ spoken).mono ?_
        · exact fun before spoken s _ => spoken_extend spoken s
        · exact fun texts spoken => .inr ⟨spoken, fun hollow => given hollow.1⟩
  refine run.map fun texts outcome => ⟨Fragment.canonical_ofPieces _, ?_⟩
  rw [Fragment.symbols_concat, List.flatMap_eq_nil_iff]
  rcases outcome with ⟨rfl, hollow⟩ | ⟨⟨f, hf, some⟩, given⟩
  · exact iff_of_true nofun hollow
  · exact iff_of_false (fun none => some (none f (List.mem_reverse.2 hf))) given

end Source

/-! ### The headings of a log -/

namespace Heading

open Fragment (BlankIff canonical_ofPieces)

theorem cteItem_blankIff (entry : String × Term) :
    Ensures (Log.cteItem entry) fun f => f.BlankIff False := by
  refine .bind_any fun name => .bind_any fun body => .ok (.of_ne_nil (canonical_ofPieces _) ?_)
  simp

/-- The common table expressions of calls: every one has a text, and there are none exactly if
all calls give mappings without entries. -/
structure CtesOf (items : List Fragment) (calls : List (List Term)) : Prop where
  spoken : ∀ f ∈ items, f.BlankIff False
  none_iff : items = [] ↔ ∀ ts ∈ calls, ∃ t, ts = [t] ∧ t.entries? = some ⟨[]⟩

theorem cteItems_ctesOf (terms : List Term) :
    Ensures (Log.cteItems terms) fun items => CtesOf items [terms] := by
  unfold Log.cteItems
  split
  · refine (cteItem_blankIff _).map fun item spoken => ⟨by simpa using spoken, by simp⟩
  · rename_i t
    split
    · rename_i r hr
      refine (Ensures.mapM_same cteItem_blankIff).mono fun items spoken => ⟨?_, ?_⟩
      · have both := spoken.imp fun f e blank => And.intro blank trivial
        exact ((List.forall₂_and_left (R := fun _ _ => True) _ _).1 both).1
      · rw [← List.length_eq_zero_iff, spoken.length_eq, List.length_eq_zero_iff,
          List.forall_mem_singleton]
        constructor
        · intro none
          refine ⟨t, rfl, ?_⟩
          rw [hr, ← none]
        · rintro ⟨_, ⟨⟩, none⟩
          cases hr.symm.trans none
          rfl
    · exact .error _
  · exact .error _

theorem CtesOf.flatten {groups : List (List Fragment)} {calls : List (List Term)}
    (h : List.Forall₂ (fun items terms => CtesOf items [terms]) groups calls) :
    CtesOf groups.flatten calls := by
  induction h with
  | nil => exact ⟨nofun, iff_of_true rfl nofun⟩
  | cons head _ ih =>
    refine ⟨List.forall_mem_append.2 ⟨head.spoken, ih.spoken⟩, ?_⟩
    rw [List.flatten_cons, List.append_eq_nil_iff, head.none_iff, ih.none_iff,
      List.forall_mem_singleton, List.forall_mem_cons]

/-- The text of the common table expressions. -/
theorem written_ctes : Ensures log.ctes (Written config log .ctes) := by
  unfold Log.ctes
  split
  · rename_i none
    exact .ok (.omitted none)
  · rename_i calls given
    refine (Ensures.mapM_same cteItems_ctesOf).map fun groups traversed => ?_
    have items := CtesOf.flatten traversed
    have canonical : ∀ f ∈ groups.flatten, f.Canonical := fun f hf => (items.spoken f hf).canonical
    have blank : (∀ f ∈ groups.flatten, f.symbols = []) ↔ groups.flatten = [] := by
      rw [List.eq_nil_iff_forall_not_mem]
      exact forall₂_congr fun f hf => (items.spoken f hf).blank
    refine .always ⟨canonical_ofPieces _, ?_⟩ given
    rw [Fragment.symbols_join_eq_nil_iff canonical, blank, items.none_iff]
    exact (and_iff_right given).symm

/-- The text of the conditions of a clause. -/
theorem written_condition (formed : log.Every Term.Formed) {clause : Clause} {h : Heading}
    (absent : h.absent = Fragment.empty)
    (silent : h.Silent config log ↔
      ∀ ts ∈ log.operandsOf clause, ∀ t ∈ ts, Condition.ofTerm config t = .ok none)
    (bare : h.Bare config log ↔
      ∃ f, log.condition config clause = .ok (some (.expr f)) ∧ f.symbols = []) :
    Ensures (log.keyedCondition config clause h.keyword) (Written config log h) := by
  have text : log.keyedCondition config clause h.keyword =
      (log.condition config clause).map fun c =>
        c.elim Fragment.empty fun c => Fragment.headed h.keyword c.render := by
    rw [Log.keyedCondition, Log.condition]
    cases (log.operandsOf clause).mapM (Condition.anyOf config) with
    | error e => rfl
    | ok cs =>
      simp only [bind, Except.bind, Except.map]
      cases Condition.conjoin (cs.filterMap id) <;> rfl
  have solid : GivesSolid (log.condition config clause) := by
    refine (Ensures.mapM_forall fun ts hts => ?_).map fun cs hcs =>
      Condition.solid_conjoin (Condition.forall_filterMap hcs)
    exact Term.Formed.anyOf config (formed.operandsOf clause ts hts)
  have none_iff : log.condition config clause = .ok none ↔ h.Silent config log := by
    rw [silent, Log.condition, Condition.conjoin, Condition.combine_mapM_eq_none_iff]
    refine forall₂_congr fun ts _ => ?_
    rw [Condition.anyOf, Condition.disjoin, Condition.map_combine_ofTerms,
      Condition.combine_mapM_eq_none_iff]
  rw [text]
  cases hc : log.condition config clause with
  | error e => exact .error e
  | ok c =>
    cases c with
    | none =>
      rw [← absent]
      exact .ok (.omitted (none_iff.1 hc))
    | some c =>
      refine .ok (.always ⟨canonical_ofPieces _, ?_⟩ fun silent => ?_)
      · rw [(solid _ hc c rfl).render_eq_nil_iff, bare, hc]
        simp
      · cases hc.symm.trans (none_iff.2 silent)

/-- The text of the last operand of a clause. -/
theorem written_last (formed : log.Every Term.Formed) {clause : Clause} {h : Heading}
    (absent : h.absent = Fragment.empty)
    (silent : h.Silent config log ↔ log.lastOperand? clause = none)
    (bare : h.Bare config log ↔ ∃ t ∈ log.lastOperand? clause, t.Blank) :
    Ensures (log.keyedLast clause h.keyword) (Written config log h) := by
  unfold Log.keyedLast
  rw [← Log.lastOperand?]
  split
  · rename_i none
    rw [← absent]
    exact .ok (.omitted (silent.2 none))
  · rename_i t some
    refine (formed.lastOperand clause t some).operand.map fun f blank => ?_
    refine .always ⟨blank.canonical, blank.blank.trans ?_⟩ ?_
    · rw [bare, some]
      simp
    · rw [silent, some]
      exact nofun

/-- The text of a list. -/
theorem written_list (formed : log.Every Term.Formed) {clause : Clause} {h : Heading}
    (absent : h.absent = Fragment.empty)
    (silent : h.Silent config log ↔ ∀ t ∈ log.allOperands clause, t.Hollow)
    (never : ¬ h.Bare config log) :
    Ensures (log.keyedList clause h.keyword) (Written config log h) := by
  refine (Term.Formed.list (formed.allOperands clause)).map fun f blank => ?_
  exact .unlessEmpty ⟨blank.canonical, blank.blank.trans silent.symm⟩ never absent

/-- The text of a list of sources. -/
theorem written_sources {sources : List Source}
    (formed : ∀ s ∈ sources, ∀ t ∈ s.operands, t.Formed) {h : Heading}
    (absent : h.absent = Fragment.empty)
    (silent : h.Silent config log ↔ ∀ s ∈ sources, s.Hollow) (never : ¬ h.Bare config log) :
    Ensures (Source.list config sources) fun f =>
      Written config log h (Fragment.headedUnlessEmpty h.keyword f) := by
  refine (Source.list_blankIff formed).mono fun f blank => ?_
  exact .unlessEmpty ⟨blank.canonical, blank.blank.trans silent.symm⟩ never absent

end Heading

/-! ### Sections -/

theorem Assignment.list_spoken : Ensures (Assignment.list config log) fun f => f.symbols ≠ [] := by
  refine .bind_any fun groups => ?_
  simp only
  split
  · exact .error _
  · rename_i full
    refine .ok fun none => full ?_
    exact (Fragment.canonical_ofPieces _).isEmpty_iff.2 none

theorem Insertion.list_spoken : Ensures (Insertion.list config log) fun f => f.symbols ≠ [] := by
  have positional : Ensures (ofPositional log) fun f => f.symbols ≠ [] := by
    refine .bind_any fun p => ?_
    unfold Positional.text
    split
    · exact .error _
    · split
      · exact .error _
      · exact .ok (by simp)
  have rows (rows : List Row) : Ensures (ofRows rows) fun f => f.symbols ≠ [] := by
    unfold ofRows
    simp only
    split_ifs
    · exact .error _
    · exact .ok (by simp)
    · exact .error _
    · exact .bind_any fun tuples => .ok (by simp)
  refine .bind_any fun forms => ?_
  split_ifs
  · exact positional
  · exact .error _
  · exact .bind_any rows

namespace Section

theorem written_of_heading {s : Section} {h : Heading} (single : s.headings = [h])
    {text : Except Error Fragment} (written : Ensures text (h.Written config log)) :
    Ensures text (s.Written config log) := by
  refine written.mono fun f hf =>
    ⟨[f], [], ?_, nofun, (Fragment.join_singleton hf.canonical _).symm⟩
  rw [single]
  exact .cons hf .nil

section

variable (config) (formed : log.Every Term.Formed)

include formed

/-- The target of a mutation stands behind its keyword. -/
theorem written_target {target : Term} {others : List Source}
    (split : Source.ofLog log = .table target :: others) {h : Heading}
    (demanded : ¬ h.Silent config log)
    (bare : h.Bare config log ↔ ∃ t, (Source.ofLog log).head? = some (.table t) ∧ t.Hollow) :
    Ensures target.item fun item => h.Written config log (Fragment.headed h.keyword item) := by
  have sources := formed.sources
  rw [split, List.forall_mem_cons] at sources
  refine (sources.1 target List.mem_cons_self).item.mono fun item blank => ?_
  refine .always ⟨blank.canonical, blank.blank.trans ?_⟩ demanded
  rw [bare, split]
  simp

/-- So do the tables beside it. -/
theorem written_others {target : Term} {others : List Source}
    (split : Source.ofLog log = .table target :: others) {h : Heading}
    (absent : h.absent = Fragment.empty)
    (silent : h.Silent config log ↔ ∀ s ∈ (Source.ofLog log).tail, s.Hollow)
    (never : ¬ h.Bare config log) :
    Ensures (Source.list config others) fun f =>
      h.Written config log (Fragment.headedUnlessEmpty h.keyword f) := by
  have sources := formed.sources
  rw [split, List.forall_mem_cons] at sources
  refine Heading.written_sources sources.2 absent ?_ never
  rw [silent, split, List.tail_cons]

theorem written_insertion :
    Ensures (log.insertion config) (Section.Written config log .insertion) := by
  refine (Source.ensures_splitTarget _).bind fun (target, others) split => ?_
  simp only
  split_ifs
  · exact .error _
  · refine (written_target config formed split (h := .insertTarget) not_false Iff.rfl).bind
      fun item written => Insertion.list_spoken.bind fun rows spoken => .ok ?_
    refine ⟨[Fragment.headed "insert into" item], [rows], .cons written .nil, ?_, ?_⟩
    · exact fun _ => .inl rfl
    · exact (Fragment.join_pair (by simp) spoken " ").symm

theorem written_assignment :
    Ensures (log.assignment config) (Section.Written config log .assignment) := by
  refine (Source.ensures_splitTarget _).bind fun (target, others) split => ?_
  refine Assignment.list_spoken.bind fun assignments spoken => ?_
  refine (written_target config formed split (h := .updateTarget) not_false Iff.rfl).bind
    fun item written => .ok ?_
  have set : Heading.Written config log .assignments (Fragment.headed "set" assignments) :=
    .full not_false not_false spoken
  refine ⟨[Fragment.headed "update" item, Fragment.headed "set" assignments], [],
    .cons written (.cons set .nil), nofun, ?_⟩
  exact (Fragment.join_pair (by simp) (by simp) " ").symm

theorem written_otherSources :
    Ensures (log.otherSources config) (Section.Written config log .otherSources) := by
  refine (Source.ensures_splitTarget _).bind fun (target, others) split => ?_
  refine written_of_heading rfl ?_
  exact (written_others config formed split (h := .updateSources) rfl Iff.rfl not_false).bind
    fun f written => .ok written

theorem written_deletion :
    Ensures (log.deletion config) (Section.Written config log .deletion) := by
  refine (Source.ensures_splitTarget _).bind fun (target, others) split => ?_
  refine (written_target config formed split (h := .deleteTarget) not_false Iff.rfl).bind
    fun item written => ?_
  refine (written_others config formed split (h := .deleteSources) rfl Iff.rfl not_false).bind
    fun beside writtenBeside => .ok ?_
  refine ⟨[Fragment.headed "delete from" item, Fragment.headedUnlessEmpty "using" beside], [],
    .cons written (.cons writtenBeside .nil), nofun, ?_⟩
  have spoken : (Fragment.headed "delete from" item).symbols ≠ [] := by simp
  exact (Fragment.join_headedUnlessEmpty (Fragment.canonical_ofPieces _) spoken "using" _).symm

end

/-- Every section is written heading by heading. -/
theorem written (formed : log.Every Term.Formed) (s : Section) :
    Ensures (s.text config log) (s.Written config log) := by
  cases s with
  | ctes => exact written_of_heading rfl Heading.written_ctes
  | selection =>
    refine written_of_heading rfl ?_
    refine (Term.Formed.list (formed.allOperands .output)).map fun columns blank => ?_
    split
    · rename_i empty
      exact .omitted (blank.blank.1 (blank.canonical.isEmpty_iff.1 empty))
    · rename_i full
      have spoken : columns.symbols ≠ [] := fun none => full (blank.canonical.isEmpty_iff.2 none)
      exact .full (fun silent => spoken (blank.blank.2 silent)) not_false spoken
  | sources =>
    refine written_of_heading rfl ?_
    exact (Heading.written_sources (h := .sources) formed.sources rfl Iff.rfl not_false).map
      fun _ written => written
  | filter =>
    exact written_of_heading rfl
      (Heading.written_condition (h := .filter) formed rfl Iff.rfl Iff.rfl)
  | grouping =>
    exact written_of_heading rfl
      (Heading.written_list (h := .grouping) formed rfl Iff.rfl not_false)
  | having =>
    exact written_of_heading rfl
      (Heading.written_condition (h := .having) formed rfl Iff.rfl Iff.rfl)
  | ordering =>
    exact written_of_heading rfl
      (Heading.written_list (h := .ordering) formed rfl Iff.rfl not_false)
  | limit =>
    exact written_of_heading rfl
      (Heading.written_last (h := .limit) formed rfl Iff.rfl Iff.rfl)
  | offset =>
    exact written_of_heading rfl
      (Heading.written_last (h := .offset) formed rfl Iff.rfl Iff.rfl)
  | insertion => exact written_insertion config formed
  | assignment => exact written_assignment config formed
  | otherSources => exact written_otherSources config formed
  | deletion => exact written_deletion config formed
  | returning =>
    exact written_of_heading rfl
      (Heading.written_list (h := .returning) formed rfl Iff.rfl not_false)
  | manual => exact .map_any fun parts => ⟨[], parts, .nil, fun _ => .inr rfl, rfl⟩

end Section

/-! ### Queries -/

namespace Query

/-- The calls of a query with terms for operands. -/
def terms (q : Query Operand) : Log Term := q.log.map (Call.map (Operand.term q.config))

theorem formed_terms (q : Query Operand) : q.terms.Every Term.Formed :=
  .map fun _ _ x _ => x.formed_term q.config

/-- A compiled query consists of the texts of its sections, each of which is written heading by
heading. -/
theorem headings_written {q : Query Operand} {c : Compiled} (h : q.compile = .ok c) :
    ∃ texts, List.Forall₂ (fun s text => Section.text q.config q.terms s = .ok text ∧
        s.Written q.config q.terms text) c.kind.sections texts ∧
      c.statement = (Fragment.join texts " ").toStatement := by
  have outcome : Ensures q.statement fun result => ∃ texts,
      List.Forall₂ (fun s text => Section.text q.config q.terms s = .ok text ∧
        s.Written q.config q.terms text) result.1.sections texts ∧
        result.2 = Fragment.join texts " " := by
    rw [statement_eq_map]
    refine .bind_any fun kind => ?_
    split
    · exact .error _
    · have texts (s : Section) : Ensures (s.text q.config q.terms) fun text =>
          s.text q.config q.terms = .ok text ∧ s.Written q.config q.terms text :=
        fun text ok => ⟨ok, s.written q.formed_terms text ok⟩
      refine (Ensures.mapM_same texts).bind fun texts written => ?_
      exact .ok ⟨texts, written.flip, rfl⟩
  cases hq : q.statement with
  | error e =>
    rw [compile, hq] at h
    cases h
  | ok result =>
    rw [compile, hq] at h
    cases h
    obtain ⟨texts, written, same⟩ := outcome result hq
    exact ⟨texts, written, congrArg Fragment.toStatement same⟩

/-- A mapping without entries leaves no trace, and a limit stands behind its keyword. -/
theorem headings_written_limit :
    let q := (((Query.new Config.default).table "t").filter (.record ⟨[]⟩)).limit (.value (.int 5))
    ∃ c, q.compile = .ok c ∧ c.statement = ⟨"select * from t limit $1", [.int 5]⟩ ∧
      ∃ texts, List.Forall₂ (fun s text => Section.text q.config q.terms s = .ok text ∧
          s.Written q.config q.terms text) c.kind.sections texts ∧
        c.statement = (Fragment.join texts " ").toStatement := by
  intro q
  exact ⟨_, rfl, rfl, headings_written (q := q) rfl⟩

/-- The keyword `with` goes by the calls: behind it stands nothing if the only call gives a
mapping without entries. -/
theorem keyword_alone :
    let q := ((Query.new Config.default).table "t").cteRecord (.record ⟨[]⟩)
    (∃ c, q.compile = .ok c ∧ c.kind = .select ∧
      c.statement = ⟨"with  select * from t", []⟩) ∧
    .ctes ∈ StatementKind.select.sections ∧
    Section.text q.config q.terms .ctes = .ok (Fragment.headed "with" Fragment.empty) := by
  intro q
  exact ⟨⟨_, rfl, rfl, rfl⟩, by decide, rfl⟩

end Query

end SqlBuilder
