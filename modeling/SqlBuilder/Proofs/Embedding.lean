import SqlBuilder.Proofs.Correspondence.Operand
import SqlBuilder.Proofs.Reading

/-!
# Freezing a sub-query

A query can be compiled first and its statement embedded, or the query itself can be embedded.
When its text is legible the two are the same: the statement reads back as the text of the query,
and no position tells a sub-query from a statement with the same text.
-/

namespace SqlBuilder

/-- One query is the other one with a sub-query frozen, at any number of places: `s` stands where
`q` stood. -/
def Query.Freezes (q : Query Operand) (s : Statement) (p p' : Query Operand) : Prop :=
  p.Corresponds (fun x y => x = .query q ∧ y = .statement s) Eq p'

namespace Query

/-- The text of a query is in canonical form. -/
theorem canonical_statement {q : Query Operand} {kind : StatementKind} {f : Fragment}
    (h : q.statement = .ok (kind, f)) : f.Canonical := by
  have joined : ∀ result, Log.statement q.config (q.log.map (callTerm q.config)) = .ok result →
      result.2.Canonical := by
    intro result hresult
    unfold Log.statement at hresult
    cases hkind : Log.statementKind (q.log.map (callTerm q.config)) with
    | error e => simp [hkind, bind, Except.bind] at hresult
    | ok kind =>
      simp only [hkind, bind, Except.bind] at hresult
      split at hresult
      · cases hresult
      · split at hresult
        · cases hresult
        · cases hresult
          exact Fragment.canonical_ofPieces _
  rw [statement_eq] at h
  exact joined _ h

/-- A sub-query may be replaced by a statement that reads back as its text. -/
theorem Freezes.compile_eq {q p p' : Query Operand} {s : Statement} {kind : StatementKind}
    {f : Fragment} (hq : q.statement = .ok (kind, f)) (hs : s.toFragment = .ok f)
    (h : Freezes q s p p') : p.compile = p'.compile := by
  have exchanged (R : Value → Value → Prop) (place : Place) (config : Config) (x y : Operand)
      (same : ∀ v, R v v) (hxy : x = .query q ∧ y = .statement s) :
      (x.term config).Corresponds R place (y.term config) := by
    obtain ⟨rfl, rfl⟩ := hxy
    rw [term_query, term_statement, hq, hs]
    refine .frozen (.ok (List.forall₂_same.2 fun piece _ => ?_))
    cases piece with
    | text sql => exact .text sql
    | param v => exact .param (same v)
  exact ((Query.Corresponds.compile exchanged h).mono fun _ _ related => related.eq).eq

/-- Let `f` be the unnumbered text of a query, legible and with as many parameters as a machine
word can count. Then the compiled statement reads back as `f` with the same values, and wherever
other queries have the query inside, the statement may stand in its place. -/
theorem freeze_transparent {q : Query Operand} {kind : StatementKind} {f : Fragment}
    (hq : q.statement = .ok (kind, f)) (legible : f.Legible)
    (word : f.args.length < Text.wordLimit) :
    ∃ c, q.compile = .ok c ∧ c.statement.toFragment = .ok f ∧ c.statement.args = f.args ∧
      ∀ p p', Freezes q c.statement p p' → p.compile = p'.compile := by
  have read := legible.toFragment (canonical_statement hq) word
  refine ⟨⟨kind, f.toStatement⟩, ?_, read, rfl, fun p p' h => h.compile_eq hq read⟩
  rw [compile, hq]
  rfl

/-- The prices of the items of a kind, which are shown in dollars. -/
def pricesOf (kind : Value) : Query Operand :=
  (((Query.new Config.identity).select "price").select "'$1' as currency").table "items"
    |>.filter (.record ⟨[("kind", .value kind)]⟩)

/-- Orders whose price, and whose discount, is one of those that a sub-query gives. -/
def ordersWith (prices : Operand) : Query Operand :=
  ((Query.new Config.default).table "orders").filter (.value (.json (.object ⟨[("open", .null)]⟩)))
    |>.filter (.predicate (.any [.template ⟨["price in ", ""], [prices]⟩,
      .record ⟨[("discount", prices)]⟩]))

theorem freeze_transparent_prices :
    let q := pricesOf (.text "book")
    ∃ kind f, q.statement = .ok (kind, f) ∧ f.Legible ∧ f.args.length < Text.wordLimit ∧
      ∃ c, q.compile = .ok c ∧ c.statement.toFragment = .ok f ∧ c.statement.args = f.args ∧
        (ordersWith (.query q)).compile = (ordersWith (.statement c.statement)).compile := by
  intro q
  have legible : ∃ kind f, q.statement = .ok (kind, f) ∧ f.Legible ∧
      f.args.length < Text.wordLimit :=
    ⟨_, _, rfl, (Fragment.legible_iff _).2 (by decide +kernel), by decide +kernel⟩
  obtain ⟨kind, f, hq, legible, word⟩ := legible
  obtain ⟨c, compiled, read, args, embed⟩ := freeze_transparent hq legible word
  refine ⟨kind, f, hq, legible, word, c, compiled, read, args, embed _ _ ?_⟩
  have frozen {place : Place} : Operand.Corresponds
      (fun x y => x = .query q ∧ y = .statement c.statement) Eq place (.query q)
      (.statement c.statement) := .exchange (fun _ => rfl) ⟨rfl, rfl⟩
  have same (x : Operand) {place : Place} : Operand.Corresponds
      (fun x y => x = .query q ∧ y = .statement c.statement) Eq place x x :=
    Operand.Corresponds.refl x fun _ => rfl
  refine (((Query.Corresponds.new Config.default).push .table (.single (same _))).push .filter
    (.single (same _))).push .filter (.single (.any rfl fun x y hxy => ?_))
  simp only [List.zip_cons_cons, List.zip_nil_right, List.mem_cons, List.not_mem_nil,
    or_false] at hxy
  rcases hxy with hxy | hxy <;> cases hxy
  · exact .slots _ (.cons frozen .nil)
  · exact .entries (.cons ⟨rfl, frozen⟩ .nil)

end Query

end SqlBuilder
