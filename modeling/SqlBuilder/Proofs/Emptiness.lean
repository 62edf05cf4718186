import SqlBuilder.Proofs.Chains
import SqlBuilder.Proofs.Forms
import SqlBuilder.Proofs.Fragment
import SqlBuilder.Proofs.Operand
import SqlBuilder.Proofs.Outcome

/-!
# Which terms have no text

A fragment in canonical form is empty when it has no symbols. Almost every term is written with
some text; the exceptions are SQL from the caller without any text (`Term.Blank`) and, in lists,
mappings without entries (`Term.Hollow`). A condition has no text only if it is such SQL by itself
(`Condition.Solid.render_eq_nil_iff`).
-/

namespace SqlBuilder

/-! ### Fragments -/

namespace Fragment

/-- There is one canonical fragment without text. -/
theorem Canonical.eq_empty {f : Fragment} (h : f.Canonical) (none : f.symbols = []) :
    f = empty := by
  rw [h, none]
  rfl

theorem Canonical.isEmpty_iff {f : Fragment} (h : f.Canonical) : f.isEmpty ↔ f.symbols = [] := by
  constructor
  · intro none
    rw [symbols, List.isEmpty_iff.1 none]
    rfl
  · intro none
    rw [h.eq_empty none]
    rfl

/-- A text that is there is not empty, in canonical form or not. -/
theorem isEmpty_of_ne_nil {f : Fragment} (spoken : f.symbols ≠ []) : f.isEmpty = false := by
  cases h : f.isEmpty with
  | false => rfl
  | true =>
    rw [symbols, List.isEmpty_iff.1 h] at spoken
    exact absurd rfl spoken

/-- One fragment alone needs no separator. -/
theorem join_singleton {f : Fragment} (canonical : f.Canonical) (separator : String) :
    join [f] separator = f := by
  by_cases none : f.symbols = []
  · rw [canonical.eq_empty none]
    rfl
  · refine (canonical_ofPieces _).eq_of_symbols canonical ?_
    change (join [f] separator).symbols = f.symbols
    simp [join, isEmpty_of_ne_nil none]

/-- Between two texts that are there stands one separator. -/
theorem join_pair {f g : Fragment} (hf : f.symbols ≠ []) (hg : g.symbols ≠ [])
    (separator : String) : join [f, g] separator = f.push separator ++ g := by
  refine (canonical_ofPieces _).eq_of_symbols (canonical_ofPieces _) ?_
  change (join [f, g] separator).symbols = (f.push separator ++ g).symbols
  simp [join, isEmpty_of_ne_nil hf, isEmpty_of_ne_nil hg]

/-- A heading that may be missing is joined with a blank in front of it. -/
theorem join_headedUnlessEmpty {f : Fragment} (canonical : f.Canonical) (spoken : f.symbols ≠ [])
    (keyword : String) (body : Fragment) :
    join [f, headedUnlessEmpty keyword body] " " =
      f ++ headedUnlessEmpty (" " ++ keyword) body := by
  refine (canonical_ofPieces _).eq_of_symbols (canonical_ofPieces _) ?_
  change (join [f, headedUnlessEmpty keyword body] " ").symbols =
    (f ++ headedUnlessEmpty (" " ++ keyword) body).symbols
  unfold headedUnlessEmpty
  split
  · have absent : join [f, empty] " " = join [f] " " := by
      have none : empty.isEmpty := rfl
      simp [join, isEmpty_of_ne_nil spoken, none]
    simp [absent, join_singleton canonical]
  · rw [join_pair spoken (by simp)]
    simp

/-- A joined list has no text exactly if nothing in it has any. -/
theorem symbols_join_eq_nil_iff {fs : List Fragment} (canonical : ∀ f ∈ fs, f.Canonical)
    (separator : String) : (join fs separator).symbols = [] ↔ ∀ f ∈ fs, f.symbols = [] := by
  have spoken : ∀ f ∈ fs.filter fun f => !f.isEmpty, f.symbols ≠ [] := by
    intro f hf none
    obtain ⟨hf, full⟩ := List.mem_filter.1 hf
    rw [(canonical f hf).isEmpty_iff.2 none] at full
    cases full
  have joined : (join fs separator).symbols = [] ↔ (fs.filter fun f => !f.isEmpty) = [] := by
    rw [join, symbols_concat]
    generalize (fs.filter fun f => !f.isEmpty) = gs at spoken
    cases gs with
    | nil => simp
    | cons f rest =>
      have first := spoken f List.mem_cons_self
      cases rest with
      | nil => simp [first]
      | cons g rest => simp [first]
  rw [joined, List.filter_eq_nil_iff]
  refine forall₂_congr fun f hf => ?_
  rw [← (canonical f hf).isEmpty_iff]
  simp

/-- A text in canonical form, which is empty exactly under the condition. -/
structure BlankIff (f : Fragment) (silent : Prop) : Prop where
  canonical : f.Canonical
  blank : f.symbols = [] ↔ silent

/-- A joined list has no text only if nothing in it has any. -/
theorem BlankIff.join {α : Type} {fs : List Fragment} {xs : List α} {silent : α → Prop}
    (h : List.Forall₂ (fun f x => f.BlankIff (silent x)) fs xs) (separator : String) :
    (join fs separator).BlankIff (∀ x ∈ xs, silent x) := by
  have canonical : ∀ f ∈ fs, f.Canonical := by
    induction h with
    | nil => exact nofun
    | cons head _ ih => exact List.forall_mem_cons.2 ⟨head.canonical, ih⟩
  refine ⟨canonical_ofPieces _, (symbols_join_eq_nil_iff canonical separator).trans ?_⟩
  clear canonical
  induction h with
  | nil => simp
  | cons head _ ih => rw [List.forall_mem_cons, List.forall_mem_cons, head.blank, ih]

theorem BlankIff.of_ne_nil {f : Fragment} (canonical : f.Canonical) (spoken : f.symbols ≠ []) :
    f.BlankIff False :=
  ⟨canonical, iff_false_intro spoken⟩

end Fragment

open Fragment (BlankIff canonical_ofPieces)

/-! ### Conditions -/

namespace Condition

/-- Every comparison that the library wrote has a text. -/
def Solid : Condition → Prop
  | .leaf f => f.symbols ≠ []
  | .expr _ => True
  | .not inner => inner.Solid
  | .and left right => left.Solid ∧ right.Solid
  | .or left right => left.Solid ∧ right.Solid

/-- The connective is written, whatever stands on its sides. -/
theorem symbols_binary_ne_nil (left right : Condition) (op : Connective) (sql : String)
    (spoken : sql.toList ≠ []) :
    (enclose (left.needsParens op) left.parts
      (Fragment.ofSql sql :: enclose (right.needsParens op) right.parts [])).flatMap
        Fragment.symbols ≠ [] := by
  rw [← List.nil_append (Fragment.ofSql sql :: _), enclose_append _ left.parts_append]
  simp [spoken]

/-- A condition has no text only if it is SQL from the caller that has none. -/
theorem Solid.render_eq_nil_iff {c : Condition} (h : c.Solid) :
    c.render.symbols = [] ↔ ∃ f, c = .expr f ∧ f.symbols = [] := by
  rw [render, Fragment.symbols_concat]
  cases c with
  | leaf f =>
    have spoken : f.symbols ≠ [] := h
    simp [parts, spoken]
  | expr f => simp [parts]
  | not inner => simp [parts]
  | and left right =>
    have spoken := symbols_binary_ne_nil left right .and " and " (by decide)
    simpa [parts] using spoken
  | or left right =>
    have spoken := symbols_binary_ne_nil left right .or " or " (by decide)
    simpa [parts] using spoken

theorem solid_conjoin {cs : List Condition} (h : ∀ c ∈ cs, c.Solid) : ∀ c ∈ conjoin cs, c.Solid :=
  forall_combine (fun _ _ hc hd => And.intro hc hd) h

theorem solid_disjoin {cs : List Condition} (h : ∀ c ∈ cs, c.Solid) : ∀ c ∈ disjoin cs, c.Solid :=
  forall_combine (fun _ _ hc hd => And.intro hc hd) h

end Condition

/-! ### Terms -/

/-- A condition, if there is one, in which all that the library wrote has a text. -/
abbrev GivesSolid (x : Except Error (Option Condition)) : Prop :=
  Ensures x fun c => ∀ d ∈ c, d.Solid

/-- What the terms of operands have in common: their templates are in canonical form, and what
the library wrote into their conditions has a text. -/
abbrev Term.Formed (t : Term) : Prop :=
  t.Holds (fun text => Ensures text Fragment.Canonical) (fun _ => True) GivesSolid

namespace Term

/-- SQL from the caller without any text. -/
def Blank (t : Term) : Prop := t = .raw "" ∨ t = .template (.ok Fragment.empty)

/-- A term that has no text in a list. -/
def Hollow (t : Term) : Prop := t.Blank ∨ t.entries? = some ⟨[]⟩

namespace Formed

variable {t : Term}

/-- An operand is written with some text unless it is SQL of the caller that has none. -/
theorem operand (h : t.Formed) : Ensures t.operand fun f => f.BlankIff t.Blank := by
  have spoken {f : Fragment} (canonical : f.Canonical) (some : f.symbols ≠ [])
      (other : ¬ t.Blank) : f.BlankIff t.Blank :=
    ⟨canonical, ⟨fun none => absurd none some, fun blank => absurd blank other⟩⟩
  cases h with
  | value v => exact .ok (spoken (canonical_ofPieces _) (by simp) (by simp [Blank]))
  | default => exact .ok (spoken (canonical_ofPieces _) (by simp) (by simp [Blank]))
  | raw sql => exact .ok ⟨canonical_ofPieces _, by simp [Blank]⟩
  | template canonical =>
    intro f hf
    cases hf
    have formed := canonical f rfl
    refine ⟨formed, fun none => .inr (by rw [formed.eq_empty none]), ?_⟩
    rintro (blank | blank)
    · cases blank
    · cases blank
      rfl
  | query body =>
    exact .map_any fun f => spoken (canonical_ofPieces _) (by simp) (by simp [Blank])
  | statement body =>
    exact .map_any fun f => spoken (canonical_ofPieces _) (by simp) (by simp [Blank])
  | record formed => exact .error _
  | predicate solid =>
    refine .bind_any fun c => ?_
    cases c with
    | none => exact .error _
    | some c => exact .ok (spoken (canonical_ofPieces _) (by simp) (by simp [Blank]))

/-- An aliased item is written with its alias, so it has a text. -/
theorem aliased {e : String × Term} :
    Ensures (Term.aliased e) fun f => f.BlankIff False := by
  unfold Term.aliased
  refine .bind_any fun name => .bind_any fun f => .ok (.of_ne_nil (canonical_ofPieces _) ?_)
  simp

/-- An item of a list has no text only if it is hollow. -/
theorem item (h : t.Formed) : Ensures t.item fun f => f.BlankIff t.Hollow := by
  unfold Term.item
  cases hr : t.entries? with
  | some r =>
    refine (Ensures.mapM_same fun e => aliased).map fun items hitems => ?_
    have joined := BlankIff.join hitems ", "
    refine ⟨joined.canonical, joined.blank.trans ?_⟩
    have written : ¬ t.Blank := by
      rintro (rfl | rfl)
      · cases hr
      · cases hr
    obtain ⟨entries⟩ := r
    cases entries with
    | nil => exact iff_of_true nofun (.inr hr)
    | cons e entries =>
      refine iff_of_false (fun none => none e List.mem_cons_self) ?_
      rintro (blank | none)
      · exact written blank
      · cases hr.symm.trans none
  | none =>
    refine h.operand.mono fun f hf => ⟨hf.canonical, hf.blank.trans ?_⟩
    simp [Hollow, hr]

/-- A list has no text only if all of its items are hollow. -/
theorem list {ts : List Term} (h : ∀ t ∈ ts, t.Formed) :
    Ensures (Term.list ts) fun f => f.BlankIff (∀ t ∈ ts, t.Hollow) := by
  have items : List.Forall₂ (fun t u => t.Formed ∧ t = u) ts ts :=
    List.forall₂_same.2 fun t ht => ⟨h t ht, rfl⟩
  refine (Ensures.mapM items ?_).map fun items hitems => BlankIff.join hitems ", "
  rintro t _ ⟨formed, rfl⟩
  exact formed.item

end Formed

end Term

/-! ### Conditions of terms -/

namespace Term.Formed

variable (config : Config)

theorem leaf {body : Except Error Fragment} (h : Ensures body fun f => f.symbols ≠ []) :
    GivesSolid (body.map fun f => some (.leaf f)) := by
  refine h.map fun f spoken => ?_
  rintro d ⟨⟩
  exact spoken

/-- An entry is written with its column, unless its operand is a predicate, which is taken as it
is. -/
theorem ofEntry {e : String × Term} (h : e.2.Formed) :
    GivesSolid (Condition.ofEntry config e) := by
  have equation (entry : String × Term) :
      Ensures (config.equation entry) fun f => f.symbols ≠ [] :=
    .bind_any fun column => .bind_any fun operand => .ok (by simp)
  obtain ⟨key, t⟩ := e
  cases h with
  | predicate solid => exact solid
  | default | record => exact .error _
  | _ => exact leaf (equation _)

/-- What the library makes of a term for a condition has no empty comparison. -/
theorem ofTerm {t : Term} (h : t.Formed) : GivesSolid (Condition.ofTerm config t) := by
  unfold Condition.ofTerm
  split
  · rename_i r hr
    exact (Ensures.mapM_forall fun e he => ofEntry config (h.entries? hr e he)).map
      fun cs hcs => Condition.solid_conjoin (Condition.forall_filterMap hcs)
  · cases h with
    | raw sql =>
      refine .ok ?_
      rintro d ⟨⟩
      trivial
    | template canonical =>
      refine .map_any fun f => ?_
      rintro d ⟨⟩
      trivial
    | query body | statement body =>
      refine .map_any fun f => ?_
      rintro d ⟨⟩
      simp [Condition.Solid]
    | predicate solid => exact solid
    | value | default | record => exact .error _

theorem ofTerms {ts : List Term} (h : ∀ t ∈ ts, t.Formed) :
    Ensures (Condition.ofTerms config ts) fun cs => ∀ c ∈ cs, c.Solid :=
  (Ensures.mapM_forall fun t ht => ofTerm config (h t ht)).map
    fun _ hcs => Condition.forall_filterMap hcs

theorem anyOf {ts : List Term} (h : ∀ t ∈ ts, t.Formed) :
    GivesSolid (Condition.anyOf config ts) :=
  (ofTerms config h).map fun _ => Condition.solid_disjoin

theorem allOf {ts : List Term} (h : ∀ t ∈ ts, t.Formed) :
    GivesSolid (Condition.allOf config ts) :=
  (ofTerms config h).map fun _ => Condition.solid_conjoin

theorem noneOf {t : Term} (h : t.Formed) : GivesSolid (Condition.noneOf config t) := by
  refine (ofTerm config h).map fun c solid => ?_
  cases c with
  | none => exact nofun
  | some c =>
    rintro d ⟨⟩
    exact solid c rfl

end Term.Formed

/-- The terms of operands are formed. -/
theorem Operand.formed_term (config : Config) (x : Operand) : (x.term config).Formed := by
  induction x using Operand.induction with
  | value v => exact .value v
  | default => exact .default
  | raw sql => exact .raw sql
  | template parts args =>
    rw [term_template]
    refine .template ?_
    unfold Template.render
    split
    · exact .map_any fun fs => canonical_ofPieces _
    · exact .error _
  | query query history =>
    rw [term_query]
    exact .query trivial
  | statement s =>
    rw [term_statement]
    exact .statement trivial
  | record entries ih =>
    rw [term_record]
    exact .record (List.forall_mem_map.2 ih)
  | not x ih =>
    rw [term_not]
    exact .predicate (Term.Formed.noneOf config ih)
  | all xs ih =>
    rw [term_all]
    exact .predicate (Term.Formed.allOf config (List.forall_mem_map.2 ih))
  | any xs ih =>
    rw [term_any]
    exact .predicate (Term.Formed.anyOf config (List.forall_mem_map.2 ih))

end SqlBuilder
