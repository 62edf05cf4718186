import SqlBuilder.Section.Text

/-!
# Chains of conditions

Conditions that are conjoined are written one after the other, however the conjunction is nested:
the text of a condition depends on its conjuncts alone (`Condition.render_eq_renderChain`). So the
calls of a clause may be read one by one, each giving the conjuncts that it adds
(`Log.keyedCondition_eq`), and a call that gives none leaves no trace.
-/

namespace SqlBuilder

namespace Condition

/-! ### Combinations -/

section

variable {P : Condition → Prop}

/-- What an operator keeps holds of the combination if it holds of the conditions. -/
theorem forall_combine {op : Condition → Condition → Condition}
    (keeps : ∀ c d, P c → P d → P (op c d)) {cs : List Condition} (h : ∀ c ∈ cs, P c) :
    ∀ c ∈ combine op cs, P c := by
  cases cs with
  | nil => exact nofun
  | cons first rest =>
    rintro c ⟨⟩
    induction rest generalizing first with
    | nil => exact h first List.mem_cons_self
    | cons next rest ih =>
      obtain ⟨holds, holds', others⟩ := by simpa only [List.forall_mem_cons] using h
      exact ih (op first next) (List.forall_mem_cons.2 ⟨keeps first next holds holds', others⟩)

theorem forall_filterMap {cs : List (Option Condition)} (h : ∀ c ∈ cs, ∀ d ∈ c, P d) :
    ∀ c ∈ cs.filterMap id, P c := by
  intro c hc
  obtain ⟨d, hd, rfl⟩ := List.mem_filterMap.1 hc
  exact h _ hd c rfl

end

/-! ### The conjuncts of a condition -/

/-- What a condition conjoins. -/
def conjuncts : Condition → List Condition
  | .leaf f => [.leaf f]
  | .expr f => [.expr f]
  | .not inner => [.not inner]
  | .and left right => left.conjuncts ++ right.conjuncts
  | .or left right => [.or left right]

theorem conjuncts_ne_nil (c : Condition) : c.conjuncts ≠ [] := by
  induction c with
  | and left right ihLeft => simp [conjuncts, ihLeft]
  | leaf | expr | not | or => exact nofun

/-- Puts the parts of conjuncts in front of other parts, with `and` between them. -/
def chainParts : List Condition → (after : List Fragment) → List Fragment
  | [], after => after
  | [c], after => enclose (c.needsParens .and) c.parts after
  | c :: rest, after =>
    enclose (c.needsParens .and) c.parts (Fragment.ofSql " and " :: chainParts rest after)

theorem chainParts_append {cs ds : List Condition} (hcs : cs ≠ []) (hds : ds ≠ [])
    (after : List Fragment) :
    chainParts (cs ++ ds) after =
      chainParts cs (Fragment.ofSql " and " :: chainParts ds after) := by
  induction cs with
  | nil => exact absurd rfl hcs
  | cons c rest ih =>
    obtain ⟨d, ds, rfl⟩ := List.exists_cons_of_ne_nil hds
    cases rest with
    | nil => rfl
    | cons c' rest => simp only [List.cons_append, chainParts, ← ih nofun]

/-- Under `and` a condition is written as the chain of its conjuncts. -/
theorem enclose_eq_chainParts (c : Condition) (after : List Fragment) :
    enclose (c.needsParens .and) c.parts after = chainParts c.conjuncts after := by
  induction c generalizing after with
  | and left right ihLeft ihRight =>
    rw [conjuncts, chainParts_append left.conjuncts_ne_nil right.conjuncts_ne_nil, ← ihRight,
      ← ihLeft]
    rfl
  | leaf | expr | not | or => rfl

/-- The text of a chain; what stands alone needs no parentheses. -/
def renderChain : List Condition → Fragment
  | [c] => c.render
  | cs => Fragment.concat (chainParts cs [])

/-- The text of a condition depends on its conjuncts alone. -/
theorem render_eq_renderChain (c : Condition) : c.render = renderChain c.conjuncts := by
  cases c with
  | and left right =>
    have several : renderChain (left.conjuncts ++ right.conjuncts) =
        Fragment.concat (chainParts (left.conjuncts ++ right.conjuncts) []) := by
      obtain ⟨c, cs, hcs⟩ := List.exists_cons_of_ne_nil left.conjuncts_ne_nil
      obtain ⟨d, ds, hds⟩ := List.exists_cons_of_ne_nil right.conjuncts_ne_nil
      rw [hcs, hds]
      cases cs <;> rfl
    rw [conjuncts, several, ← conjuncts, ← enclose_eq_chainParts]
    rfl
  | leaf | expr | not | or => rfl

/-- The conjuncts of a condition that may be missing. -/
def chain : Option Condition → List Condition
  | none => []
  | some c => c.conjuncts

theorem chain_conjoin (cs : List Condition) : chain (conjoin cs) = cs.flatMap conjuncts := by
  cases cs with
  | nil => rfl
  | cons c rest =>
    have folded (d : Condition) :
        (rest.foldl .and d).conjuncts = d.conjuncts ++ rest.flatMap conjuncts := by
      induction rest generalizing d with
      | nil => simp
      | cons d' rest ih => simp [ih, conjuncts]
    exact folded c

/-- Conditions that are missing add nothing to a chain. -/
theorem chain_conjoin_filterMap (cs : List (Option Condition)) :
    chain (conjoin (cs.filterMap id)) = cs.flatMap chain := by
  rw [chain_conjoin]
  induction cs with
  | nil => rfl
  | cons c cs ih =>
    cases c with
    | none => exact ih
    | some c => exact congrArg (c.conjuncts ++ ·) ih

/-! ### Calls -/

/-- The conjuncts that calls of conditions add, one call after the other. -/
def conjunctsOf (config : Config) (calls : List (List Term)) : Except Error (List Condition) :=
  (calls.mapM (anyOf config)).map fun cs => cs.flatMap chain

variable (config : Config)

theorem conjunctsOf_append (calls calls' : List (List Term)) :
    conjunctsOf config (calls ++ calls') = do
      let cs ← conjunctsOf config calls
      let ds ← conjunctsOf config calls'
      return cs ++ ds := by
  simp only [conjunctsOf, List.mapM_append]
  cases calls.mapM (anyOf config) with
  | error e => rfl
  | ok cs =>
    cases calls'.mapM (anyOf config) with
    | error e => rfl
    | ok ds => exact congrArg Except.ok List.flatMap_append

/-- A chain behind its keyword, or nothing if there is none. -/
def chainText (keyword : String) (cs : List Condition) : Fragment :=
  if cs.isEmpty then Fragment.empty else Fragment.headed keyword (renderChain cs)

end Condition

/-- The calls of a clause are read one by one. -/
theorem Log.keyedCondition_eq (config : Config) (log : Log Term) (clause : Clause)
    (keyword : String) :
    log.keyedCondition config clause keyword =
      (Condition.conjunctsOf config (log.operandsOf clause)).map (Condition.chainText keyword) := by
  rw [keyedCondition, Condition.conjunctsOf]
  cases (log.operandsOf clause).mapM (Condition.anyOf config) with
  | error e => rfl
  | ok cs =>
    simp only [bind, Except.bind, Except.map, ← Condition.chain_conjoin_filterMap]
    cases Condition.conjoin (cs.filterMap id) with
    | none => rfl
    | some c =>
      simp only [Condition.chainText, Condition.chain, Condition.render_eq_renderChain]
      simp [c.conjuncts_ne_nil]
      rfl

end SqlBuilder
