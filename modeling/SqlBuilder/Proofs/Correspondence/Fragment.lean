import Mathlib.Data.List.Forall2
import SqlBuilder.Condition

/-!
# Fragments that correspond

Two fragments correspond along a relation of values when they hold the same text and related
parameters in the same places. Every operation on fragments and conditions keeps the
correspondence, and fragments that correspond have the same SQL text.
-/

namespace SqlBuilder

variable {R : Value → Value → Prop}

/-- The same text, or related parameters. -/
inductive Piece.Corresponds (R : Value → Value → Prop) : Piece → Piece → Prop
  | text (s : String) : Corresponds R (.text s) (.text s)
  | param {v w : Value} (related : R v w) : Corresponds R (.param v) (.param w)

/-- Lists that are related element by element are empty together. -/
theorem isEmpty_eq_of_forall₂ {α β : Type} {S : α → β → Prop} {xs : List α} {ys : List β}
    (h : List.Forall₂ S xs ys) : xs.isEmpty = ys.isEmpty := by
  cases h <;> rfl

namespace Fragment

/-- Piece by piece the same text or related parameters. -/
def Corresponds (R : Value → Value → Prop) (f g : Fragment) : Prop :=
  List.Forall₂ (Piece.Corresponds R) f.pieces g.pieces

theorem corresponds_consText (s : String) {ps qs : List Piece}
    (h : List.Forall₂ (Piece.Corresponds R) ps qs) :
    List.Forall₂ (Piece.Corresponds R) (consText s ps) (consText s qs) := by
  unfold consText
  split
  · exact h
  · exact .cons (.text s) h

/-- Runs of text are merged by looking at text alone, never at the parameters in between. -/
theorem corresponds_merge (run : String) {ps qs : List Piece}
    (h : List.Forall₂ (Piece.Corresponds R) ps qs) :
    List.Forall₂ (Piece.Corresponds R) (merge run ps) (merge run qs) := by
  induction h generalizing run with
  | nil => exact corresponds_consText run .nil
  | cons head _ ih =>
    cases head with
    | text s => exact ih (run ++ s)
    | param related => exact corresponds_consText run (.cons (.param related) (ih ""))

theorem corresponds_ofPieces {ps qs : List Piece}
    (h : List.Forall₂ (Piece.Corresponds R) ps qs) :
    (ofPieces ps).Corresponds R (ofPieces qs) :=
  corresponds_merge "" h

theorem corresponds_empty : empty.Corresponds R empty := .nil

theorem corresponds_ofSql (sql : String) : (ofSql sql).Corresponds R (ofSql sql) :=
  corresponds_ofPieces (.cons (.text sql) .nil)

theorem corresponds_ofValue {v w : Value} (h : R v w) :
    (ofValue v).Corresponds R (ofValue w) :=
  corresponds_ofPieces (.cons (.param h) .nil)

namespace Corresponds

variable {f f' g g' : Fragment} {fs gs : List Fragment}

theorem append (hf : f.Corresponds R f') (hg : g.Corresponds R g') :
    (f ++ g).Corresponds R (f' ++ g') :=
  corresponds_ofPieces (List.rel_append hf hg)

theorem push (h : f.Corresponds R g) (sql : String) : (f.push sql).Corresponds R (g.push sql) :=
  h.append (corresponds_ofSql sql)

theorem parenthesized (h : f.Corresponds R g) : f.parenthesized.Corresponds R g.parenthesized :=
  ((corresponds_ofSql "(").append h).append (corresponds_ofSql ")")

theorem headed (keyword : String) (h : f.Corresponds R g) :
    (headed keyword f).Corresponds R (Fragment.headed keyword g) :=
  (corresponds_ofSql _).append h

/-- What is left out when it is empty is left out on both sides or on neither. -/
theorem isEmpty_eq (h : f.Corresponds R g) : f.isEmpty = g.isEmpty :=
  isEmpty_eq_of_forall₂ h

/-- The keyword goes where there is something behind it, which is the same on both sides. -/
theorem headedUnlessEmpty (keyword : String) (h : f.Corresponds R g) :
    (headedUnlessEmpty keyword f).Corresponds R (Fragment.headedUnlessEmpty keyword g) := by
  unfold Fragment.headedUnlessEmpty
  rw [h.isEmpty_eq]
  split
  · exact corresponds_empty
  · exact h.headed keyword

theorem concat (h : List.Forall₂ (Corresponds R) fs gs) :
    (concat fs).Corresponds R (Fragment.concat gs) :=
  corresponds_ofPieces (List.rel_flatMap h fun _ _ hfg => hfg)

/-- The fragments that are left out of a list are the same on both sides, and with them the places
of the separators. -/
theorem join (h : List.Forall₂ (Corresponds R) fs gs) (separator : String) :
    (join fs separator).Corresponds R (Fragment.join gs separator) := by
  have kept : List.Forall₂ (Corresponds R) (fs.filter fun f => !f.isEmpty)
      (gs.filter fun g => !g.isEmpty) :=
    List.rel_filter (fun f g hfg => by simp [hfg.isEmpty_eq]) h
  apply concat
  -- Separators stand between neighbours, so the list is taken apart two at a time.
  generalize (fs.filter fun f => !f.isEmpty) = kepts, (gs.filter fun g => !g.isEmpty) = kepts'
    at kept
  induction kept with
  | nil => exact .nil
  | cons head tail ih =>
    cases tail with
    | nil => exact .cons head .nil
    | cons next rest => exact .cons head (.cons (corresponds_ofSql separator) ih)

/-- Parameters are numbered by their places; their values are not looked at. -/
theorem write_eq {ps qs : List Piece} (h : List.Forall₂ (Piece.Corresponds R) ps qs)
    (written : String) (next : Nat) : write written next ps = write written next qs := by
  induction h generalizing written next with
  | nil => rfl
  | cons head _ ih =>
    cases head with
    | text s => exact ih _ _
    | param related => exact ih _ _

/-- Fragments that correspond have the same text, and so differ in their parameters at most. -/
theorem toSql_eq (h : f.Corresponds R g) : f.toSql = g.toSql := write_eq h "" 1

/-- The parameters are related one by one, in the order in which they are numbered. -/
theorem args (h : f.Corresponds R g) : List.Forall₂ R f.args g.args := by
  refine List.rel_filterMap (fun p q hpq => ?_) h
  cases hpq with
  | text s => exact .none
  | param related => exact .some related

theorem mono {R' : Value → Value → Prop} (h : f.Corresponds R g)
    (weaker : ∀ v w, R v w → R' v w) : f.Corresponds R' g := by
  refine List.Forall₂.imp (fun p q hpq => ?_) h
  cases hpq with
  | text s => exact .text s
  | param related => exact .param (weaker _ _ related)

/-- Only equal fragments correspond along equality. -/
theorem eq (h : f.Corresponds Eq g) : f = g := by
  obtain ⟨ps⟩ := f
  obtain ⟨qs⟩ := g
  have same : ∀ p q : Piece, p.Corresponds Eq q → p = q := by
    rintro p q (s | rfl) <;> rfl
  have : List.Forall₂ Eq ps qs := List.Forall₂.imp same h
  rw [List.forall₂_eq_eq_eq] at this
  rw [this]

end Corresponds

end Fragment

/-- The same tree of conditions with fragments that correspond at its leaves. -/
inductive Condition.Corresponds (R : Value → Value → Prop) : Condition → Condition → Prop
  | leaf {f g : Fragment} (h : f.Corresponds R g) : Corresponds R (.leaf f) (.leaf g)
  | expr {f g : Fragment} (h : f.Corresponds R g) : Corresponds R (.expr f) (.expr g)
  | not {c d : Condition} (h : Corresponds R c d) : Corresponds R (.not c) (.not d)
  | and {c c' d d' : Condition} (left : Corresponds R c c') (right : Corresponds R d d') :
      Corresponds R (.and c d) (.and c' d')
  | or {c c' d d' : Condition} (left : Corresponds R c c') (right : Corresponds R d d') :
      Corresponds R (.or c d) (.or c' d')

namespace Condition.Corresponds

open Fragment (corresponds_ofSql)

variable {c d : Condition}

/-- Parentheses go by the shape of the tree alone. -/
theorem needsParens_eq (h : c.Corresponds R d) (parent : Connective) :
    c.needsParens parent = d.needsParens parent := by
  cases h <;> rfl

/-- Parts that stand in front of others correspond with parentheses around them or without. -/
theorem enclose {ps qs : List Fragment → List Fragment} (parens : Bool)
    (h : ∀ after after', List.Forall₂ (Fragment.Corresponds R) after after' →
      List.Forall₂ (Fragment.Corresponds R) (ps after) (qs after'))
    {after after' : List Fragment} (rest : List.Forall₂ (Fragment.Corresponds R) after after') :
    List.Forall₂ (Fragment.Corresponds R) (enclose parens ps after)
      (Condition.enclose parens qs after') := by
  cases parens with
  | false => exact h _ _ rest
  | true => exact .cons (corresponds_ofSql _) (h _ _ (.cons (corresponds_ofSql _) rest))

/-- The parts of a condition, in front of parts that correspond already. -/
theorem parts (h : c.Corresponds R d) {after after' : List Fragment}
    (rest : List.Forall₂ (Fragment.Corresponds R) after after') :
    List.Forall₂ (Fragment.Corresponds R) (c.parts after) (d.parts after') := by
  induction h generalizing after after' with
  | leaf h => exact .cons h rest
  | expr h => exact .cons h rest
  | not h ih =>
    simp only [Condition.parts, h.needsParens_eq]
    exact .cons (corresponds_ofSql _) (enclose _ (fun _ _ => ih) rest)
  | and left right ihLeft ihRight | or left right ihLeft ihRight =>
    simp only [Condition.parts, left.needsParens_eq, right.needsParens_eq]
    exact enclose _ (fun _ _ => ihLeft)
      (.cons (corresponds_ofSql _) (enclose _ (fun _ _ => ihRight) rest))

/-- Conditions that correspond are written with the same parentheses. -/
theorem render (h : c.Corresponds R d) : c.render.Corresponds R d.render :=
  .concat (h.parts .nil)

/-- Combining conditions from left to right keeps the correspondence. -/
theorem combine {op : Condition → Condition → Condition} {cs ds : List Condition}
    (hop : ∀ c c' d d', c.Corresponds R c' → d.Corresponds R d' → (op c d).Corresponds R (op c' d'))
    (h : List.Forall₂ (Corresponds R) cs ds) :
    Option.Rel (Corresponds R) (combine op cs) (Condition.combine op ds) := by
  cases h with
  | nil => exact .none
  | cons head tail =>
    exact .some (List.rel_foldl (P := Corresponds R) (R := Corresponds R)
      (fun _ _ hc _ _ hd => hop _ _ _ _ hc hd) head tail)

theorem conjoin {cs ds : List Condition} (h : List.Forall₂ (Corresponds R) cs ds) :
    Option.Rel (Corresponds R) (conjoin cs) (Condition.conjoin ds) :=
  combine (fun _ _ _ _ => .and) h

theorem disjoin {cs ds : List Condition} (h : List.Forall₂ (Corresponds R) cs ds) :
    Option.Rel (Corresponds R) (disjoin cs) (Condition.disjoin ds) :=
  combine (fun _ _ _ _ => .or) h

end Condition.Corresponds

end SqlBuilder
