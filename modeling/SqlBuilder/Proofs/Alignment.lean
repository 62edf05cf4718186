import SqlBuilder.Proofs.Separable.Operand
import SqlBuilder.Proofs.Spacing

/-!
# Placeholders stay aligned with their arguments

The library separates everything that it puts next to SQL from the caller, and so the scanner
finds the placeholders of a compiled statement in order. Only a template brings its slots right up
to text of the caller: `Operand.outline` is how the caller's text and the parameters stand side by
side in one, and `Operand.Spaced` asks that they do not run into each other. Where every template
of a query with clear text is spaced, the placeholders are numbered from one up to the number of
arguments (`Query.placeholders_aligned`). A slot behind an identifier or in front of a digit loses
its placeholder (`Query.placeholder_lost`).
-/

namespace SqlBuilder

/-! ### Every operand inside of a query -/

/-- The property holds of the operand and of every operand inside of it. -/
inductive Operand.Throughout (P : Operand → Prop) : Operand → Prop
  | intro {x : Operand} (here : P x) (inside : ∀ y ∈ x.inside, Throughout P y) : Throughout P x

/-- The property holds of every operand inside of the query. -/
def Query.Throughout (P : Operand → Prop) (q : Query Operand) : Prop :=
  ∀ call ∈ q.history, ∀ x ∈ call.sqlOperands, x.Throughout P

namespace Query

variable {P : Operand → Prop}

/-- A query without calls has no operands. -/
theorem throughout_new (config : Config) : (new config).Throughout P := nofun

/-- A call adds the operands that are written as SQL, and no others. -/
theorem Throughout.push {q : Query Operand} (h : q.Throughout P) (clause : Clause)
    {operands : List Operand}
    (new : ∀ x ∈ (Call.mk clause operands).sqlOperands, x.Throughout P) :
    (q.push clause operands).Throughout P := by
  intro call hcall
  rcases List.mem_cons.1 hcall with rfl | hcall
  · exact new
  · exact h call hcall

end Query

namespace Operand

variable {P Q : Operand → Prop} {x : Operand}

theorem Throughout.here (h : x.Throughout P) : P x := by
  cases h with
  | intro here _ => exact here

theorem Throughout.inside (h : x.Throughout P) : ∀ y ∈ x.inside, y.Throughout P := by
  cases h with
  | intro _ inside => exact inside

/-- Two properties that hold throughout hold together at every place. -/
theorem Throughout.and (hP : x.Throughout P) (hQ : x.Throughout Q) :
    x.Throughout fun y => P y ∧ Q y := by
  induction hP with
  | intro here _ ih => exact .intro ⟨here, hQ.here⟩ fun y hy => ih y hy (hQ.inside y hy)

theorem Throughout.mono (h : x.Throughout P) (weaker : ∀ y, P y → Q y) : x.Throughout Q := by
  induction h with
  | intro here _ ih => exact .intro (weaker _ here) ih

/-- The SQL that the caller wrote for the operand itself is clear. -/
def ClearText : Operand → Prop
  | .raw sql => Sql.Clear sql.toList
  | .template t => ∀ part ∈ t.parts, Sql.Clear part.toList
  | .statement s => ∀ token ∈ Sql.tokens s.text, token.Clear
  | _ => True

instance : DecidablePred ClearText
  | .raw sql => inferInstanceAs (Decidable (Sql.Clear sql.toList))
  | .template t => inferInstanceAs (Decidable (∀ part ∈ t.parts, Sql.Clear part.toList))
  | .statement s => inferInstanceAs (Decidable (∀ token ∈ Sql.tokens s.text, token.Clear))
  | .value _ | .default | .query _ | .record _ | .predicate _ => inferInstanceAs (Decidable True)

end Operand

/-! ### The outline of a template -/

mutual

/-- The text of an operand as it stands in a template, with nothing inside of the parentheses that
the library writes. -/
def Operand.outline : Operand → Fragment
  | .value v => Fragment.ofValue v
  | .default => Fragment.ofSql "default"
  | .raw sql => Fragment.ofSql sql
  | .template t => t.outline
  | .query _ => Fragment.ofSql "()"
  | .statement _ => Fragment.ofSql "()"
  | .record _ => Fragment.ofSql "()"
  | .predicate _ => Fragment.ofSql "()"
termination_by structural operand => operand

/-- The text of a template around the outlines of its arguments. -/
def Template.outline : Template Operand → Fragment
  | ⟨parts, args⟩ => Fragment.concat (Template.weave parts (operandOutlines args))
termination_by structural template => template

/-- The outlines of several operands. -/
def operandOutlines : List Operand → List Fragment
  | [] => []
  | x :: rest => x.outline :: operandOutlines rest
termination_by structural operands => operands

end

/-- If the operand is a template, its text and its parameters do not run into each other. -/
def Operand.Spaced : Operand → Prop
  | .template t => Sql.Spaced t.outline.symbols
  | _ => True

instance : DecidablePred Operand.Spaced
  | .template t => inferInstanceAs (Decidable (Sql.Spaced t.outline.symbols))
  | .value _ | .default | .raw _ | .query _ | .statement _ | .record _ | .predicate _ =>
    inferInstanceAs (Decidable True)

theorem operandOutlines_eq (xs : List Operand) : operandOutlines xs = xs.map Operand.outline := by
  induction xs with
  | nil => rfl
  | cons x xs ih => rw [operandOutlines, ih, List.map_cons]

/-- The outline of a template has the outlines of its arguments in the slots. -/
theorem Template.outline_eq (t : Template Operand) :
    t.outline = Fragment.concat (Template.weave t.parts (t.args.map Operand.outline)) := by
  obtain ⟨parts, args⟩ := t
  rw [Template.outline, operandOutlines_eq]

/-- What the library puts behind an expression to order by begins with a blank, so it is spaced
when the expression is. -/
theorem spaced_directed {expr : Expr} {direction : String}
    (h : Sql.Spaced expr.operand.outline.symbols)
    (blank : direction.toList.head? = some ' ')
    (text : Sql.Spaced (direction.toList.map Sum.inl)) :
    (Query.directed expr direction).Spaced := by
  have outline : (Query.directed expr direction).outline.symbols =
      expr.operand.outline.symbols ++ direction.toList.map Sum.inl := by
    simp [Query.directed, Operand.outline, Template.outline_eq, Template.weave]
  have spaced : Sql.Spaced (Query.directed expr direction).outline.symbols := by
    rw [outline]
    refine h.append text fun s _ t ht => ?_
    rw [List.head?_map, blank] at ht
    cases ht
    cases s <;> simp [Sql.apart]
  simpa [Operand.Spaced, Query.directed, Operand.outline] using spaced

/-! ### Clear text in an outline -/

/-- Clear text opens no quotation and no parameter. -/
theorem unquoted_ofSql {sql : String} (h : Sql.Clear sql.toList) :
    Sql.Unquoted (Fragment.ofSql sql).symbols := by
  rw [Fragment.symbols_ofSql]
  exact h.unquoted

theorem unquoted_weave {parts : List String} {fs : List Fragment}
    (hparts : ∀ part ∈ parts, Sql.Clear part.toList) (hfs : ∀ f ∈ fs, Sql.Unquoted f.symbols) :
    Sql.Unquoted (Fragment.concat (Template.weave parts fs)).symbols := by
  rw [Fragment.symbols_concat]
  induction parts generalizing fs with
  | nil => exact nofun
  | cons part parts ih =>
    have first := unquoted_ofSql (hparts part List.mem_cons_self)
    have others : ∀ part ∈ parts, Sql.Clear part.toList :=
      fun part hpart => hparts part (List.mem_cons_of_mem _ hpart)
    cases fs with
    | nil => exact first.append (ih others nofun)
    | cons f fs =>
      have slot := hfs f List.mem_cons_self
      have rest := ih others fun g hg => hfs g (List.mem_cons_of_mem f hg)
      exact first.append (slot.append rest)

/-- If the caller writes clear text only, nothing in an outline opens a quotation. -/
theorem Operand.unquoted_outline {x : Operand} (h : x.Throughout ClearText) :
    Sql.Unquoted x.outline.symbols := by
  induction h with
  | @intro x here _ ih =>
    have keyword : Sql.Clear "default".toList := .of_inert (by decide)
    have parentheses : Sql.Clear "()".toList := .of_inert (by decide)
    cases x with
    | value v =>
      intro c hc
      rw [Operand.outline, Fragment.symbols_ofValue] at hc
      simp at hc
    | default =>
      rw [Operand.outline]
      exact unquoted_ofSql keyword
    | raw sql =>
      rw [Operand.outline]
      exact unquoted_ofSql here
    | template t =>
      rw [Operand.outline, Template.outline_eq]
      refine unquoted_weave here fun f hf => ?_
      obtain ⟨y, hy, rfl⟩ := List.mem_map.1 hf
      exact ih y hy
    | query | statement | record | predicate =>
      rw [Operand.outline]
      exact unquoted_ofSql parentheses

/-! ### The text of an operand fills its outline -/

/-- The text fills the outline. -/
abbrev GivesFilled (outline : Fragment) (x : Except Error Fragment) : Prop :=
  Ensures x fun f => Sql.Fills outline.symbols f.symbols

/-- A body is written into the parentheses that stand for it in an outline. -/
theorem fills_parenthesized {f : Fragment} (h : f.Separable) :
    Sql.Fills (Fragment.ofSql "()").symbols f.parenthesized.symbols := by
  rw [Fragment.symbols_ofSql, Fragment.symbols_parenthesized]
  exact .part h .nil

/-- A template is written as its outline if its arguments are written as theirs. -/
theorem Template.fills_outline {t : Template Operand} {config : Config}
    (h : ∀ x ∈ t.args, GivesFilled x.outline (x.term config).operand) :
    GivesFilled t.outline (t.text config) := by
  obtain ⟨parts, args⟩ := t
  rw [Template.text, Template.outline, operandTerms_eq, operandOutlines_eq, Template.render]
  split_ifs
  · have slots : List.Forall₂ (fun t x => GivesFilled x.outline t.operand)
        (args.map (Operand.term config)) args :=
      List.forall₂_map_left_iff.2 (List.forall₂_same.2 h)
    refine (Ensures.mapM slots fun t x filled => filled).map fun fs filled => ?_
    apply Sql.Fills.weave
    exact List.forall₂_map_left_iff.2 filled.flip
  · exact .error _

/-- A separable operand fills its outline, unless it is a template. -/
theorem Operand.fills_outline {x : Operand} {config : Config} (h : (x.term config).Separable)
    (template : ∀ t, x = .template t → GivesFilled t.outline (t.text config)) :
    GivesFilled x.outline (x.term config).operand := by
  cases x with
  | value v => exact .ok (.refl _)
  | default => exact .ok (.refl _)
  | raw sql => exact .ok (.refl _)
  | template t =>
    rw [Operand.term]
    exact template t rfl
  | query q =>
    rw [Operand.term] at h ⊢
    cases h with
    | query body => exact body.map fun f hf => fills_parenthesized hf
  | statement s =>
    rw [Operand.term] at h ⊢
    cases h with
    | statement body => exact body.map fun f hf => fills_parenthesized hf
  | record r =>
    rw [Operand.term]
    exact .error _
  | predicate p =>
    rw [Operand.term] at h ⊢
    cases h with
    | predicate condition =>
      refine condition.bind fun c hc => ?_
      cases c with
      | none => exact .error _
      | some c => exact .ok (fills_parenthesized (hc c rfl).render)

/-- Where clear text and spaced templates are all that an operand holds, its term may stand
between separators, and its text fills the outline. -/
theorem Operand.separable_of_clear {x : Operand}
    (h : x.Throughout fun y => y.ClearText ∧ y.Spaced) (config : Config) :
    (x.term config).Separable ∧ GivesFilled x.outline (x.term config).operand := by
  induction h generalizing config with
  | @intro x here inside ih =>
    -- Both go through the operands inside, since a template is separable by its filled outline.
    have filled : ∀ t, x = .template t → GivesFilled t.outline (t.text config) := by
      rintro t rfl
      exact Template.fills_outline fun y hy => (ih y hy config).2
    have sql : x.SqlSeparable config := by
      cases x with
      | raw sql =>
        have clear : Sql.Clear sql.toList := here.1
        rw [Operand.SqlSeparable, Fragment.Separable, Fragment.symbols_ofSql]
        exact .of_clear clear
      | template t =>
        have clear : (Operand.template t).Throughout ClearText :=
          (Throughout.intro here inside).mono fun _ h => h.1
        have unquoted := unquoted_outline clear
        rw [Operand.outline] at unquoted
        exact (filled t rfl).mono fun f hf => .of_fills hf unquoted here.2
      | statement s => exact Statement.separable_toFragment here.1
      | value | default | query | record | predicate => trivial
    have separable : (x.term config).Separable :=
      Operand.separable_term config sql fun y hy config => (ih y hy config).1
    exact ⟨separable, fills_outline separable filled⟩

/-! ### Alignment -/

namespace Query

/-- Let all SQL from the caller inside of a query be clear, and every template spaced. If the query
compiles, the scanner finds exactly one placeholder for each argument, numbered from one in the
order of the text. -/
theorem placeholders_aligned {q : Query Operand} (clear : q.Throughout Operand.ClearText)
    (spaced : q.Throughout Operand.Spaced) {c : Compiled} (h : q.compile = .ok c) :
    c.statement.placeholderNumbers = List.range' 1 c.statement.args.length := by
  have separable : Ensures q.statement fun s => s.2.Separable := by
    apply Query.separable_statement
    intro call hcall x hx
    have both := (clear call hcall x hx).and (spaced call hcall x hx)
    exact (Operand.separable_of_clear both q.config).1
  rw [compile] at h
  cases statement : q.statement with
  | error e =>
    rw [statement] at h
    cases h
  | ok s =>
    rw [statement] at h
    cases h
    exact (separable s statement).legible.placeholderNumbers

/-- Items cheaper than a price and dearer than what an old statement gives. -/
def bargains (price : Value) (old : Statement) : Query Operand :=
  ((Query.new Config.default).cte "\"$1 --\"" (.statement old)).table "items"
    |>.filter
      (.template ⟨["price - 1 < ", " and price > ", " / 2"], [.value price, .statement old]⟩)
    |>.orderByAsc "price"

theorem placeholders_aligned_bargains :
    let q := bargains (.int 9) ⟨"select sum(price) - $1 from sales", [.int 1]⟩
    q.Throughout Operand.ClearText ∧ q.Throughout Operand.Spaced ∧
      ∃ c, q.compile = .ok c ∧ c.statement.args.length = 3 ∧
        c.statement.placeholderNumbers = List.range' 1 c.statement.args.length := by
  intro q
  have table : (Operand.raw "items").Throughout fun x => x.ClearText ∧ x.Spaced :=
    .intro ⟨by decide +kernel, trivial⟩ nofun
  have value : (Operand.value (.int 9)).Throughout fun x => x.ClearText ∧ x.Spaced :=
    .intro ⟨trivial, trivial⟩ nofun
  have statement : (Operand.statement ⟨"select sum(price) - $1 from sales", [.int 1]⟩).Throughout
      fun x => x.ClearText ∧ x.Spaced := .intro ⟨by decide +kernel, trivial⟩ nofun
  have both : q.Throughout fun x => x.ClearText ∧ x.Spaced := by
    refine ((throughout_new _).push .cte ?_).push .table ?_ |>.push .filter ?_ |>.push .ordering ?_
    · exact List.forall_mem_singleton.2 statement
    · exact List.forall_mem_singleton.2 table
    · refine List.forall_mem_singleton.2 (.intro ⟨by decide +kernel, by decide +kernel⟩ ?_)
      exact List.forall_mem_cons.2 ⟨value, List.forall_mem_singleton.2 statement⟩
    · have spaced : (directed "price" " asc").Spaced :=
        spaced_directed (by decide +kernel) rfl (by decide +kernel)
      have column : (Operand.raw "price").Throughout fun x => x.ClearText ∧ x.Spaced :=
        .intro ⟨by decide +kernel, trivial⟩ nofun
      exact List.forall_mem_singleton.2
        (.intro ⟨by decide +kernel, spaced⟩ (List.forall_mem_singleton.2 column))
  have clear : q.Throughout Operand.ClearText :=
    fun call hcall x hx => (both call hcall x hx).mono fun _ h => h.1
  have spaced : q.Throughout Operand.Spaced :=
    fun call hcall x hx => (both call hcall x hx).mono fun _ h => h.2
  have compiled : (q.compile.toOption.map fun c => c.statement.args.length) = some 3 := by
    decide +kernel
  cases hc : q.compile with
  | error e =>
    rw [hc] at compiled
    cases compiled
  | ok c =>
    rw [hc] at compiled
    have args : c.statement.args.length = 3 := Option.some.inj compiled
    exact ⟨clear, spaced, c, rfl, args, placeholders_aligned clear spaced hc⟩

/-- Filters by a template with one slot. -/
def filteredBy (text : String) : Query Operand :=
  ((Query.new Config.default).table "t").filter
    (.template ((Template.parse text).bind (.value (.int 7))))

/-- Slots that run into the text beside them lose their placeholders. Behind an identifier the
dollar sign goes on with the identifier, and so the only argument of `a = b$1` has no placeholder;
in front of a digit the number goes on, and so the only argument of `a = $10` has that of a
tenth. -/
theorem placeholder_lost :
    let behind := filteredBy "a = b?"
    let before := filteredBy "a = ?0"
    (behind.Throughout Operand.ClearText ∧ ∃ c, behind.compile = .ok c ∧
      c.statement = ⟨"select * from t where a = b$1", [.int 7]⟩ ∧
      c.statement.placeholderNumbers = []) ∧
    before.Throughout Operand.ClearText ∧ ∃ c, before.compile = .ok c ∧
      c.statement = ⟨"select * from t where a = $10", [.int 7]⟩ ∧
      c.statement.placeholderNumbers = [10] := by
  intro behind before
  have table : (Operand.raw "t").Throughout Operand.ClearText := .intro (by decide +kernel) nofun
  have value : (Operand.value (.int 7)).Throughout Operand.ClearText := .intro trivial nofun
  have clear {text : String}
      (slot : (Operand.template ((Template.parse text).bind (.value (.int 7)))).ClearText)
      (inside : (Operand.template ((Template.parse text).bind (.value (.int 7)))).inside =
        [.value (.int 7)]) : (filteredBy text).Throughout Operand.ClearText := by
    refine ((throughout_new _).push .table (List.forall_mem_singleton.2 table)).push .filter ?_
    refine List.forall_mem_singleton.2 (.intro slot ?_)
    rw [inside]
    exact List.forall_mem_singleton.2 value
  exact ⟨⟨clear (by decide +kernel) rfl, _, rfl, rfl, by decide +kernel⟩,
    clear (by decide +kernel) rfl, _, rfl, rfl, by decide +kernel⟩

end Query

end SqlBuilder
