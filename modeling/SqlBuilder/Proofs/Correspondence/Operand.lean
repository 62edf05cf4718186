import SqlBuilder.Proofs.Correspondence.Section
import SqlBuilder.Proofs.Operand

/-!
# Queries that correspond

Two operands correspond when they are the same up to the values in them, and up to operands that
may be exchanged for each other. A value that is read at its place is the same on both sides, and
any other value may be replaced by one that is not read there either.

The main statements are `Operand.Corresponds.term`, an induction over the operands, and
`Query.Corresponds.compile`: queries that correspond compile to the same text and to related
arguments, or fail with the same error.
-/

namespace SqlBuilder

/-- Operands of the same shape with related values, where `E` tells which operands may be
exchanged for which. The relation of values is an index because values in declared columns are
more strictly related. -/
inductive Operand.Corresponds (E : Operand → Operand → Prop) :
    (Value → Value → Prop) → Place → Operand → Operand → Prop
  | value {R : Value → Value → Prop} {place : Place} {v : Value}
      (related : List.Forall₂ R (v.parameters place) (v.parameters place)) :
      Corresponds E R place (.value v) (.value v)
  | parameter {R : Value → Value → Prop} {place : Place} {v w : Value}
      (left : v.isRead place = false) (right : w.isRead place = false) (related : R v w) :
      Corresponds E R place (.value v) (.value w)
  | default {R : Value → Value → Prop} {place : Place} : Corresponds E R place .default .default
  | raw {R : Value → Value → Prop} {place : Place} (sql : String) :
      Corresponds E R place (.raw sql) (.raw sql)
  | template {R : Value → Value → Prop} {place : Place} (parts : List String)
      {xs ys : List Operand} (length_eq : xs.length = ys.length)
      (h : ∀ x y, (x, y) ∈ xs.zip ys → Corresponds E R .operand x y) :
      Corresponds E R place (.template ⟨parts, xs⟩) (.template ⟨parts, ys⟩)
  | query {R : Value → Value → Prop} {place : Place} (config : Config)
      {calls calls' : List (Call Operand)}
      (clauses : calls.map Call.clause = calls'.map Call.clause)
      (lengths : calls.map (·.operands.length) = calls'.map (·.operands.length))
      (h : ∀ c c', (c, c') ∈ calls.zip calls' → ∀ (i : Nat) (x y : Operand),
        c.operands[i]? = some x → c'.operands[i]? = some y →
        Corresponds E (c.clause.relation R) (c.clause.place i) x y) :
      Corresponds E R place (.query ⟨config, calls⟩) (.query ⟨config, calls'⟩)
  | statement {R : Value → Value → Prop} {place : Place} (text : String)
      {args args' : List Value} (related : List.Forall₂ R args args') :
      Corresponds E R place (.statement ⟨text, args⟩) (.statement ⟨text, args'⟩)
  | record {R : Value → Value → Prop} {place : Place} {es es' : List (String × Operand)}
      (keys : es.map Prod.fst = es'.map Prod.fst)
      (h : ∀ e e', (e, e') ∈ es.zip es' → Corresponds E R place.entry e.2 e'.2) :
      Corresponds E R place (.record ⟨es⟩) (.record ⟨es'⟩)
  | not {R : Value → Value → Prop} {place : Place} {x y : Operand}
      (h : Corresponds E R .mapping x y) :
      Corresponds E R place (.predicate (.not x)) (.predicate (.not y))
  | all {R : Value → Value → Prop} {place : Place} {xs ys : List Operand}
      (length_eq : xs.length = ys.length)
      (h : ∀ x y, (x, y) ∈ xs.zip ys → Corresponds E R .mapping x y) :
      Corresponds E R place (.predicate (.all xs)) (.predicate (.all ys))
  | any {R : Value → Value → Prop} {place : Place} {xs ys : List Operand}
      (length_eq : xs.length = ys.length)
      (h : ∀ x y, (x, y) ∈ xs.zip ys → Corresponds E R .mapping x y) :
      Corresponds E R place (.predicate (.any xs)) (.predicate (.any ys))
  | exchange {R : Value → Value → Prop} {place : Place} {x y : Operand} (refl : ∀ v, R v v)
      (h : E x y) : Corresponds E R place x y

/-- Operands of a call that correspond, each in its place. -/
structure CallOperandsCorrespond (E : Operand → Operand → Prop) (R : Value → Value → Prop)
    (clause : Clause) (xs ys : List Operand) : Prop where
  length_eq : xs.length = ys.length
  operand : ∀ (i : Nat) (x y : Operand), xs[i]? = some x → ys[i]? = some y →
    x.Corresponds E (clause.relation R) (clause.place i) y

/-- Queries with the same configuration whose calls correspond one by one. -/
structure Query.Corresponds (E : Operand → Operand → Prop) (R : Value → Value → Prop)
    (q q' : Query Operand) : Prop where
  config_eq : q.config = q'.config
  calls : List.Forall₂ (fun c c' : Call Operand => c.clause = c'.clause ∧
    CallOperandsCorrespond E R c.clause c.operands c'.operands) q.history q'.history

variable {E : Operand → Operand → Prop} {R : Value → Value → Prop} {place : Place}

/-- The operand of a call that has a single one. -/
theorem CallOperandsCorrespond.single {clause : Clause} {x y : Operand}
    (h : x.Corresponds E (clause.relation R) (clause.place 0) y) :
    CallOperandsCorrespond E R clause [x] [y] := by
  refine ⟨rfl, fun i x' y' hx hy => ?_⟩
  cases i with
  | zero =>
    cases hx
    cases hy
    exact h
  | succ i => simp at hx

/-- Templates with the same parts and corresponding arguments. -/
theorem Operand.Corresponds.slots (parts : List String) {xs ys : List Operand}
    (h : List.Forall₂ (Operand.Corresponds E R .operand) xs ys) :
    (Operand.template ⟨parts, xs⟩).Corresponds E R place (.template ⟨parts, ys⟩) :=
  .template parts h.length_eq fun _ _ => (List.forall₂_iff_zip.1 h).2

/-- Mappings with the same keys and corresponding operands. -/
theorem Operand.Corresponds.entries {es es' : List (String × Operand)}
    (h : List.Forall₂ (fun e e' => e.1 = e'.1 ∧ e.2.Corresponds E R place.entry e'.2) es es') :
    (Operand.record ⟨es⟩).Corresponds E R place (.record ⟨es'⟩) := by
  refine .record ?_ fun _ _ he => ((List.forall₂_iff_zip.1 h).2 he).2
  exact map_eq_iff_forall₂.2 (h.imp fun _ _ => And.left)

/-- Every operand corresponds to itself. -/
theorem Operand.Corresponds.refl (x : Operand) :
    ∀ {R : Value → Value → Prop} {place : Place}, (∀ v, R v v) →
      x.Corresponds E R place x := by
  induction x using Operand.induction with
  | value v => exact fun same => .value (List.forall₂_same.2 fun v _ => same v)
  | default => exact fun _ => .default
  | raw sql => exact fun _ => .raw sql
  | template parts args ih =>
    exact fun same => .slots parts (List.forall₂_same.2 fun x hx => ih x hx same)
  | query config history ih =>
    intro R place same
    refine .query config rfl rfl fun c c' hcc i x y hx hy => ?_
    obtain rfl := eq_of_mem_zip_self hcc
    obtain rfl : x = y := Option.some.inj (hx.symm.trans hy)
    refine ih c (List.of_mem_zip hcc).1 x (List.mem_of_getElem? hx) fun v => ?_
    cases c.clause <;> first | exact same v | exact ⟨rfl, same v⟩
  | statement s =>
    obtain ⟨text, args⟩ := s
    exact fun same => .statement text (List.forall₂_same.2 fun v _ => same v)
  | record es ih =>
    exact fun same => .entries (List.forall₂_same.2 fun e he => ⟨rfl, ih e he same⟩)
  | not x ih => exact fun same => .not (ih same)
  | all xs ih =>
    intro R place same
    refine .all rfl fun x y hxy => ?_
    obtain rfl := eq_of_mem_zip_self hxy
    exact ih x (List.of_mem_zip hxy).1 same
  | any xs ih =>
    intro R place same
    refine .any rfl fun x y hxy => ?_
    obtain rfl := eq_of_mem_zip_self hxy
    exact ih x (List.of_mem_zip hxy).1 same

/-- A statement whose arguments are replaced reads back as the same text with the replacements. -/
theorem corresponds_toFragment (text : String) {args args' : List Value}
    (related : List.Forall₂ R args args') :
    Agree (Fragment.Corresponds R) (Statement.mk text args).toFragment
      (Statement.mk text args').toFragment := by
  have argument (digits : List Char) : Agree R (Statement.argument args.toArray digits)
      (Statement.argument args'.toArray digits) := by
    unfold Statement.argument
    simp only [List.size_toArray, related.length_eq]
    split
    · exact .error _
    · split
      · exact .error _
      · rename_i n _
        simp only [List.getElem?_toArray]
        by_cases inside : n < args.length
        · have inside' : n < args'.length := related.length_eq ▸ inside
          rw [List.getElem?_eq_getElem inside, List.getElem?_eq_getElem inside']
          exact .ok (List.forall₂_iff_get.1 related |>.2 n inside inside')
        · rw [List.getElem?_eq_none (by omega),
            List.getElem?_eq_none (by rw [← related.length_eq]; omega)]
          exact .error _
  have piece (token : Sql.Token) : Agree (Piece.Corresponds R)
      (Statement.piece args.toArray token) (Statement.piece args'.toArray token) := by
    cases token with
    | text run => exact .ok (.text _)
    | placeholder digits => exact (argument digits).map fun _ _ => .param
  have pieces : Agree (List.Forall₂ (Piece.Corresponds R))
      ((Sql.tokens text).mapM (Statement.piece args.toArray))
      ((Sql.tokens text).mapM (Statement.piece args'.toArray)) :=
    Agree.mapM_same piece
  exact pieces.map fun _ _ => Fragment.corresponds_ofPieces

/-- Calls with corresponding operands, as calls of terms. -/
theorem corresponds_history (config : Config) {calls calls' : List (Call Operand)}
    (clauses : calls.map Call.clause = calls'.map Call.clause)
    (lengths : calls.map (·.operands.length) = calls'.map (·.operands.length))
    (h : ∀ c c', (c, c') ∈ calls.zip calls' → ∀ (i : Nat) (x y : Operand),
      c.operands[i]? = some x → c'.operands[i]? = some y →
      (x.term config).Corresponds (c.clause.relation R) (c.clause.place i) (y.term config)) :
    Log.Corresponds R (calls.map (Call.map (Operand.term config)))
      (calls'.map (Call.map (Operand.term config))) := by
  have clauses := List.forall₂_iff_zip.1 (map_eq_iff_forall₂.1 clauses)
  have lengths := List.forall₂_iff_zip.1 (map_eq_iff_forall₂.1 lengths)
  unfold Log.Corresponds
  rw [List.forall₂_map_left_iff, List.forall₂_map_right_iff, List.forall₂_iff_zip]
  refine ⟨clauses.1, fun {c c'} hcc => ⟨clauses.2 hcc, ?_, fun i t u ht hu => ?_⟩⟩
  · simpa [Call.map] using lengths.2 hcc
  · simp only [Call.map, List.getElem?_map, Option.map_eq_some_iff] at ht hu
    obtain ⟨x, hx, rfl⟩ := ht
    obtain ⟨y, hy, rfl⟩ := hu
    exact h c c' hcc i x y hx hy

/-- Operands that correspond have terms that correspond, provided that operands which may be
exchanged do. -/
theorem Operand.Corresponds.term {x y : Operand} (h : x.Corresponds E R place y)
    (exchanged : ∀ (R : Value → Value → Prop) (place : Place) (config : Config) (x y : Operand),
      (∀ v, R v v) → E x y → (x.term config).Corresponds R place (y.term config))
    (config : Config) : (x.term config).Corresponds R place (y.term config) := by
  -- Induction on the correspondence; a query inside changes the configuration.
  have pairwise {place : Place} {R : Value → Value → Prop} {xs ys : List Operand} {config : Config}
      (length_eq : xs.length = ys.length)
      (ih : ∀ x y, (x, y) ∈ xs.zip ys →
        ∀ config, (x.term config).Corresponds R place (y.term config)) :
      List.Forall₂ (Term.Corresponds R place) (xs.map (Operand.term config))
        (ys.map (Operand.term config)) := by
    rw [List.forall₂_map_left_iff, List.forall₂_map_right_iff, List.forall₂_iff_zip]
    exact ⟨length_eq, fun hxy => ih _ _ hxy config⟩
  induction h generalizing config with
  | value related => simpa [Operand.term] using .value related
  | parameter left right related =>
    simpa [Operand.term] using .parameter left right related
  | default => simpa [Operand.term] using .default
  | raw sql => simpa [Operand.term] using .raw sql
  | template parts length_eq _ ih =>
    rw [term_template, term_template]
    exact .template (corresponds_render parts (pairwise length_eq ih))
  | query subconfig clauses lengths _ ih =>
    rw [term_query, term_query, Query.statement_eq_map, Query.statement_eq_map]
    have log := corresponds_history subconfig clauses lengths
      fun c c' hcc i x y hx hy => ih c c' hcc i x y hx hy subconfig
    refine .query ((Log.Corresponds.statement subconfig ?_).map fun _ _ => And.right)
    simpa [Query.log, Log.Corresponds] using List.rel_reverse log
  | statement text related =>
    rw [term_statement, term_statement]
    exact .statement (corresponds_toFragment text related)
  | @record R place es es' keys _ ih =>
    rw [term_record, term_record]
    refine .record ?_ fun e e' he => ?_
    · simpa [Function.comp_def] using keys
    · rw [List.zip_map, List.mem_map] at he
      obtain ⟨⟨a, b⟩, hab, heq⟩ := he
      cases heq
      exact ih a b hab config
  | not _ ih =>
    rw [term_not, term_not]
    exact .predicate (Condition.corresponds_noneOf config (ih config))
  | all length_eq _ ih =>
    rw [term_all, term_all]
    exact .predicate (Condition.corresponds_allOf config (pairwise length_eq ih))
  | any length_eq _ ih =>
    rw [term_any, term_any]
    exact .predicate (Condition.corresponds_anyOf config (pairwise length_eq ih))
  | exchange refl h => exact exchanged _ _ config _ _ refl h

/-- Compiled queries of the same kind, with the same text and related arguments. -/
structure Compiled.Corresponds (R : Value → Value → Prop) (c c' : Compiled) : Prop where
  kind_eq : c.kind = c'.kind
  text_eq : c.statement.text = c'.statement.text
  args : List.Forall₂ R c.statement.args c'.statement.args

theorem Compiled.Corresponds.eq {c c' : Compiled} (h : c.Corresponds Eq c') : c = c' := by
  obtain ⟨kind, text, args⟩ := c
  obtain ⟨kind', text', args'⟩ := c'
  have same : args = args' := by
    rw [← List.forall₂_eq_eq_eq]
    exact h.args
  obtain rfl : kind = kind' := h.kind_eq
  obtain rfl : text = text' := h.text_eq
  rw [same]

namespace Query.Corresponds

variable {q q' : Query Operand}

theorem clauses_eq (h : q.Corresponds E R q') :
    q.history.map Call.clause = q'.history.map Call.clause :=
  map_eq_iff_forall₂.2 (h.calls.imp fun _ _ => And.left)

theorem lengths_eq (h : q.Corresponds E R q') :
    q.history.map (·.operands.length) = q'.history.map (·.operands.length) :=
  map_eq_iff_forall₂.2 (h.calls.imp fun _ _ hcc => hcc.2.length_eq)

theorem operands (h : q.Corresponds E R q') (c c' : Call Operand)
    (hcc : (c, c') ∈ q.history.zip q'.history) :
    CallOperandsCorrespond E R c.clause c.operands c'.operands :=
  ((List.forall₂_iff_zip.1 h.calls).2 hcc).2

/-- Queries that correspond do so as operands, in every place. -/
theorem query (h : q.Corresponds E R q') (place : Place) :
    (Operand.query q).Corresponds E R place (.query q') := by
  obtain ⟨config, history⟩ := q
  obtain ⟨config', history'⟩ := q'
  obtain rfl : config = config' := h.config_eq
  exact .query config h.clauses_eq h.lengths_eq fun c c' hcc => (h.operands c c' hcc).operand

/-- A query without calls corresponds to itself. -/
theorem new (config : Config) : (Query.new config).Corresponds E R (Query.new config) :=
  ⟨rfl, .nil⟩

/-- The same call made on both sides. -/
theorem push (h : q.Corresponds E R q') (clause : Clause) {xs ys : List Operand}
    (operands : CallOperandsCorrespond E R clause xs ys) :
    (q.push clause xs).Corresponds E R (q'.push clause ys) :=
  ⟨h.config_eq, .cons ⟨rfl, operands⟩ h.calls⟩

variable (exchanged : ∀ (R : Value → Value → Prop) (place : Place) (config : Config)
  (x y : Operand), (∀ v, R v v) → E x y →
    (x.term config).Corresponds R place (y.term config))
include exchanged

/-- The text of queries that correspond is the same up to related parameters. -/
theorem statement (h : q.Corresponds E R q') :
    Agree (fun s s' => s.1 = s'.1 ∧ s.2.Corresponds R s'.2) q.statement q'.statement := by
  have history := corresponds_history q.config h.clauses_eq h.lengths_eq
    fun c c' hcc i x y hx hy =>
      ((h.operands c c' hcc).operand i x y hx hy).term exchanged q.config
  have log := Log.Corresponds.statement q.config (List.rel_reverse history)
  simpa only [Query.statement_eq_map, Query.log, List.map_reverse, ← h.config_eq] using log

/-- Queries that correspond compile to the same text and to related arguments, or fail with the
same error. -/
theorem compile (h : q.Corresponds E R q') :
    Agree (Compiled.Corresponds R) q.compile q'.compile :=
  (h.statement exchanged).map fun _ _ ⟨kind_eq, fragments⟩ =>
    ⟨kind_eq, fragments.toSql_eq, fragments.args⟩

end Query.Corresponds

end SqlBuilder
