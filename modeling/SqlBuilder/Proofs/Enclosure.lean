import Mathlib.Tactic.SplitIfs
import SqlBuilder.Proofs.Grouping

/-!
# Entries of a mapping keep their grouping

An entry `column = operand` of a mapping is a `leaf`, even when the operand is SQL from the caller
with operators of its own. Alone and under `or` the condition reads as if the whole comparison
stood in parentheses, whatever the operand holds. Under `and` it does where the comparison is a
conjunction, under `not` where it is a factor (`Condition.entry_keeps_grouping`); an operand that
exposes an `or` captures its neighbour (`Condition.entry_captures_neighbour`).
-/

namespace SqlBuilder

namespace Sql

variable {α β : Type}

namespace Lexeme

/-- The parenthesis in front of lexemes that are wrapped. -/
def opening (wrapped : Bool) : List (Lexeme α) := if wrapped then [.lparen] else []

/-- The parenthesis behind lexemes that are wrapped. -/
def closing (wrapped : Bool) : List (Lexeme α) := if wrapped then [.rparen] else []

theorem wrap_eq (wrapped : Bool) (ts : List (Lexeme α)) :
    wrap wrapped ts = opening wrapped ++ (ts ++ closing wrapped) := by
  cases wrapped with
  | false => exact (List.append_nil ts).symm
  | true => rfl

end Lexeme

/-- Lexemes behind which an operand begins that is not negated. -/
def Opens (ts : List (Lexeme α)) : Prop :=
  ∀ t ∈ ts.getLast?, t = .lparen ∨ t = .and ∨ t = .or

theorem opens_singleton {t : Lexeme α} (h : t = .lparen ∨ t = .and ∨ t = .or) : Opens [t] := by
  intro u hu
  cases hu
  exact h

theorem opens_opening (wrapped : Bool) : Opens (Lexeme.opening wrapped : List (Lexeme α)) := by
  cases wrapped with
  | false => exact nofun
  | true => exact opens_singleton (.inl rfl)

theorem Opens.append {ts us : List (Lexeme α)} (h : Opens us) (first : us = [] → Opens ts) :
    Opens (ts ++ us) := by
  intro t ht
  rw [List.getLast?_append] at ht
  cases last : us.getLast? with
  | none =>
    rw [last] at ht
    exact first (List.getLast?_eq_none_iff.1 last) t ht
  | some u =>
    rw [last] at ht
    cases ht
    exact h t last

/-- Lexemes in the place of atoms come nowhere near an operand that follows. -/
theorem Opens.expand {ts : List (Lexeme α)} (h : Opens ts) (sql : α → List (Lexeme β)) :
    Opens (ts.flatMap (Lexeme.expand sql)) := by
  rcases List.eq_nil_or_concat ts with rfl | ⟨init, t, rfl⟩
  · exact nofun
  · rw [List.concat_eq_append] at h ⊢
    rw [List.flatMap_append]
    rcases h t (by simp) with rfl | rfl | rfl
    · exact (opens_singleton (.inl rfl)).append nofun
    · exact (opens_singleton (.inr (.inl rfl))).append nofun
    · exact (opens_singleton (.inr (.inr rfl))).append nofun

theorem Opens.not_negated {ts : List (Lexeme α)} (h : Opens ts) : ts.getLast? ≠ some .not := by
  intro last
  obtain opened | opened | opened := h .not last
  all_goals cases opened

end Sql

open Sql (Formula Lexeme Level Opens Reads)

/-! ### What comparisons are made of -/

/-- How SQL reads the texts of comparisons: the lexemes that they are written with. -/
structure Sql.Lexing where
  lexemes : Fragment → List (Lexeme Fragment)
  written (f : Fragment) : (Fragment.concat ((lexemes f).map (Lexeme.text id))).symbols = f.symbols

namespace Sql.Lexing

variable (s : Lexing)

/-- The lexemes of a condition, those inside its comparisons included. -/
def ofCondition (c : Condition) : List (Lexeme Fragment) :=
  c.lexemes.flatMap (Lexeme.expand fun a => s.lexemes a.fragment)

/-- The text of a condition is written with its lexemes. -/
theorem render_eq (c : Condition) :
    c.render = Fragment.concat ((s.ofCondition c).map (Lexeme.text id)) := by
  have expanded (t : Lexeme Comparison) :
      (t.expand fun a => s.lexemes a.fragment).flatMap (fun u => (u.text id).symbols) =
        (t.text Comparison.fragment).symbols := by
    cases t with
    | atom a =>
      have written := s.written a.fragment
      rwa [Fragment.symbols_concat, List.flatMap_map] at written
    | _ => exact List.append_nil _
  refine (Fragment.canonical_ofPieces _).eq_of_symbols (Fragment.canonical_ofPieces _) ?_
  change c.render.symbols = (Fragment.concat ((s.ofCondition c).map (Lexeme.text id))).symbols
  rw [c.render_eq, Fragment.symbols_concat, Fragment.symbols_concat, List.flatMap_map,
    List.flatMap_map, ofCondition, List.flatMap_assoc]
  exact (List.flatMap_congr fun t _ => expanded t).symm

/-- The text of a condition reads as a formula over what its comparisons are made of. -/
structure Gives (c : Condition) (φ : Formula Fragment) : Prop where
  written : c.render = Fragment.concat ((s.ofCondition c).map (Lexeme.text id))
  reads : Reads .disjunction (s.ofCondition c) φ

theorem gives_iff {c : Condition} {φ : Formula Fragment} :
    s.Gives c φ ↔ Sql.read (s.ofCondition c) = some φ := by
  rw [Sql.read_eq_some_iff]
  exact ⟨fun h => h.reads, fun h => ⟨s.render_eq c, h⟩⟩

end Sql.Lexing

/-! ### The place of a comparison -/

/-- A condition with one place left open. -/
inductive Context
  | here
  | not (ctx : Context)
  | andLeft (ctx : Context) (right : Condition)
  | andRight (left : Condition) (ctx : Context)
  | orLeft (ctx : Context) (right : Condition)
  | orRight (left : Condition) (ctx : Context)

namespace Context

/-- The condition with a part put into the open place. -/
def fill (part : Condition) : Context → Condition
  | .here => part
  | .not ctx => .not (ctx.fill part)
  | .andLeft ctx right => .and (ctx.fill part) right
  | .andRight left ctx => .and left (ctx.fill part)
  | .orLeft ctx right => .or (ctx.fill part) right
  | .orRight left ctx => .or left (ctx.fill part)

/-- The operator that the open place stands under, when the whole stands under `parent?`. -/
def operator? (parent? : Option Connective) : Context → Option Connective
  | .here => parent?
  | .not ctx => ctx.operator? (some .not)
  | .andLeft ctx _ => ctx.operator? (some .and)
  | .andRight _ ctx => ctx.operator? (some .and)
  | .orLeft ctx _ => ctx.operator? (some .or)
  | .orRight _ ctx => ctx.operator? (some .or)

/-- How tightly a comparison in the open place has to hold together. -/
def level (ctx : Context) : Level :=
  match ctx.operator? none with
  | none => .disjunction
  | some op => op.operandLevel

end Context

/-- Whether a condition stands in parentheses under an operator, if there is one. -/
def Condition.isWrapped (parent? : Option Connective) (c : Condition) : Bool :=
  parent?.any fun parent => c.needsParens parent

/-- The lexemes of a context around a part that stands under `operator?`, while the whole stands
under `parent?`. They do not depend on the part, apart from its own parentheses. -/
def Surrounds (operator? parent? : Option Connective)
    (lexemes : Condition → List (Lexeme Comparison)) : Prop :=
  ∃ before after : List (Lexeme Comparison),
    (∀ part, lexemes part =
      before ++ (Lexeme.wrap (part.isWrapped operator?) part.lexemes ++ after)) ∧
    (operator? = some .not ∨ Opens before ∧ (before = [] → parent? ≠ some .not))

namespace Surrounds

variable {operator? parent? : Option Connective} {lexemes : Condition → List (Lexeme Comparison)}

/-- More lexemes on both sides. -/
theorem extend {outer? : Option Connective} {longer : Condition → List (Lexeme Comparison)}
    (h : Surrounds operator? parent? lexemes) (ts us : List (Lexeme Comparison))
    (shape : ∀ part, longer part = ts ++ (lexemes part ++ us))
    (opens : parent? ≠ some .not → Opens ts)
    (first : parent? ≠ some .not → ts = [] → outer? ≠ some .not) :
    Surrounds operator? outer? longer := by
  obtain ⟨before, after, split, place⟩ := h
  refine ⟨ts ++ before, after ++ us, fun part => by simp [shape, split], ?_⟩
  rcases place with negated | ⟨hbefore, start⟩
  · exact .inl negated
  · refine .inr ⟨hbefore.append fun empty => opens (start empty), fun empty => ?_⟩
    obtain ⟨none, none'⟩ := List.append_eq_nil_iff.1 empty
    exact first (start none') none

/-- The operand of a `not`. -/
theorem not (h : Surrounds operator? (some .not) lexemes) : Surrounds operator? parent? fun part =>
    Lexeme.wrap (parent?.any fun _ => true) (.not :: lexemes part) :=
  h.extend (Lexeme.opening (parent?.any fun _ => true) ++ [.not])
    (Lexeme.closing (parent?.any fun _ => true)) (fun part => by simp [Lexeme.wrap_eq])
    (fun other => absurd rfl other) (fun other => absurd rfl other)

/-- The left side of a chain. Under `not` the chain stands in parentheses, so a parenthesis is in
front of it. -/
theorem left {op : Connective} (h : Surrounds operator? (some op) lexemes) (hop : op ≠ .not)
    (us : List (Lexeme Comparison)) : Surrounds operator? parent? fun part =>
      Lexeme.wrap (parent?.any fun parent => parent != op) (lexemes part ++ us) := by
  refine h.extend (Lexeme.opening (parent?.any fun parent => parent != op))
    (us ++ Lexeme.closing (parent?.any fun parent => parent != op))
    (fun part => by simp [Lexeme.wrap_eq]) (fun _ => Sql.opens_opening _) ?_
  rintro - bare rfl
  have wrapped : ((some Connective.not).any fun parent => parent != op) = true := by
    simpa using Ne.symm hop
  rw [wrapped] at bare
  cases bare

/-- The right side of a chain. -/
theorem right {op : Connective} (h : Surrounds operator? (some op) lexemes)
    (ts : List (Lexeme Comparison)) {t : Lexeme Comparison} (ht : t = .and ∨ t = .or) :
    Surrounds operator? parent? fun part =>
      Lexeme.wrap (parent?.any fun parent => parent != op) (ts ++ t :: lexemes part) := by
  refine h.extend (Lexeme.opening (parent?.any fun parent => parent != op) ++ ts ++ [t])
    (Lexeme.closing (parent?.any fun parent => parent != op))
    (fun part => by simp [Lexeme.wrap_eq])
    (fun _ => (Sql.opens_singleton (.inr ht)).append nofun) (fun _ empty => ?_)
  simp at empty

end Surrounds

namespace Context

/-- The lexemes of a condition surround what is put into its open place. -/
theorem surrounds (ctx : Context) (parent? : Option Connective) :
    Surrounds (ctx.operator? parent?) parent? fun part =>
      Lexeme.wrap ((ctx.fill part).isWrapped parent?) (ctx.fill part).lexemes := by
  induction ctx generalizing parent? with
  | here =>
    refine ⟨[], [], fun part => by simp [fill, operator?], ?_⟩
    by_cases negated : parent? = some .not
    · exact .inl negated
    · exact .inr ⟨nofun, fun _ => negated⟩
  | not ctx ih => exact (ih (some .not)).not
  | andLeft ctx right ih => exact (ih (some .and)).left nofun _
  | andRight left ctx ih => exact (ih (some .and)).right _ (.inl rfl)
  | orLeft ctx right ih => exact (ih (some .or)).left nofun _
  | orRight left ctx ih => exact (ih (some .or)).right _ (.inr rfl)

/-- With the lexemes of its comparisons, a condition surrounds what is put into its open place.
Only what stands right under `not` is negated. -/
theorem ofCondition_fill (ctx : Context) (s : Sql.Lexing) :
    ∃ before after, (∀ part, s.ofCondition (ctx.fill part) =
        before ++
          (Lexeme.wrap (part.isWrapped (ctx.operator? none)) (s.ofCondition part) ++ after)) ∧
      (ctx.operator? none = some .not ∨ before.getLast? ≠ some .not) := by
  obtain ⟨before, after, split, place⟩ := ctx.surrounds none
  refine ⟨before.flatMap (Lexeme.expand fun a => s.lexemes a.fragment),
    after.flatMap (Lexeme.expand fun a => s.lexemes a.fragment), fun part => ?_,
    place.imp id fun opens => (opens.1.expand _).not_negated⟩
  have lexemes : (ctx.fill part).lexemes =
      before ++ (Lexeme.wrap (part.isWrapped (ctx.operator? none)) part.lexemes ++ after) :=
    split part
  rw [Sql.Lexing.ofCondition, lexemes, List.flatMap_append, List.flatMap_append,
    Lexeme.flatMap_expand_wrap, Sql.Lexing.ofCondition]

end Context

namespace Condition

variable {config : Config} {entry : String × Term} {f : Fragment}

/-- An entry whose operand is SQL from the caller is a `leaf`. -/
theorem ofEntry_of_caller (caller : (∃ sql, entry.2 = .raw sql) ∨ ∃ text, entry.2 = .template text)
    (hf : config.equation entry = .ok f) : ofEntry config entry = .ok (some (.leaf f)) := by
  obtain ⟨key, t⟩ := entry
  rcases caller with ⟨sql, rfl⟩ | ⟨text, rfl⟩
  · rw [ofEntry, hf]
    rfl
  · rw [ofEntry, hf]
    rfl

/-- The condition reads as with the comparison in parentheses, up to regrouping or not at all,
where the place asks for nothing tighter than what the comparison is. -/
theorem read_fill_leaf (s : Sql.Lexing) (ctx : Context)
    (fits : ctx.level = .disjunction ∨ ∃ χ, Reads ctx.level (s.lexemes f) χ) :
    Option.Rel Formula.Regroups (Sql.read (s.ofCondition (ctx.fill (.leaf f))))
      (Sql.read (s.ofCondition (ctx.fill (.expr f)))) := by
  obtain ⟨before, after, split, negated⟩ := ctx.ofCondition_fill s
  have leaf : s.ofCondition (.leaf f) = s.lexemes f := List.append_nil _
  have expr : s.ofCondition (.expr f) = s.lexemes f := List.append_nil _
  rw [split, split, leaf, expr]
  unfold Context.level at fits
  cases place : ctx.operator? none with
  | none => exact Sql.rel_regroups_refl _
  | some op =>
    rw [place] at fits negated
    cases op with
    | not =>
      obtain ⟨χ, factor⟩ := fits.resolve_left nofun
      exact factor.ungroup (.inl rfl)
    | and =>
      obtain ⟨χ, conjunction⟩ := fits.resolve_left nofun
      exact conjunction.ungroup (.inr ⟨rfl, negated.resolve_left nofun⟩)
    | or => exact Sql.rel_regroups_refl _

/-- Alone and under `or`, and wherever else the comparison of an entry holds together as tightly
as its place asks for, the text reads as with the whole comparison in parentheses: either text is
a Boolean expression if the other is, and both are true under the same assignments. Nothing is
asked of what is around it. -/
theorem entry_keeps_grouping
    (caller : (∃ sql, entry.2 = .raw sql) ∨ ∃ text, entry.2 = .template text)
    (hf : config.equation entry = .ok f) (s : Sql.Lexing) (ctx : Context)
    (fits : ctx.level = .disjunction ∨ ∃ χ, Reads ctx.level (s.lexemes f) χ) :
    ofEntry config entry = .ok (some (.leaf f)) ∧
    ∀ truth value, (∃ φ, s.Gives (ctx.fill (.leaf f)) φ ∧ φ.eval truth = value) ↔
      ∃ ψ, s.Gives (ctx.fill (.expr f)) ψ ∧ ψ.eval truth = value := by
  refine ⟨ofEntry_of_caller caller hf, fun truth value => ?_⟩
  have same : (Sql.read (s.ofCondition (ctx.fill (.leaf f)))).map (Formula.eval truth) =
      (Sql.read (s.ofCondition (ctx.fill (.expr f)))).map (Formula.eval truth) :=
    Sql.eval_of_rel_regroups (read_fill_leaf s ctx fits) truth
  simp only [s.gives_iff, ← Option.map_eq_some_iff, same]

/-- The text `vip = true and score > 9`, with an operator at the top. -/
def vipAndScore : Fragment := Fragment.ofSql "vip = " ++ Fragment.ofSql "true and score > 9"

/-- SQL that reads it as a conjunction, and any other text as an atom. -/
noncomputable def vipLexing : Sql.Lexing where
  lexemes f :=
    open Classical in
    if f = vipAndScore then
      [.atom (Fragment.ofSql "vip = true"), .and, .atom (Fragment.ofSql "score > 9")]
    else [.atom f]
  written f := by
    split_ifs with h
    · subst h
      rfl
    · simp [Lexeme.text]

theorem entry_keeps_grouping_vip :
    let entry := ("vip", Term.raw "true and score > 9")
    let ctx := Context.andLeft .here (.not (.leaf (Fragment.ofSql "blocked")))
    let vip := Formula.and (.atom (Fragment.ofSql "vip = true"))
      (.atom (Fragment.ofSql "score > 9"))
    Config.identity.equation entry = .ok vipAndScore ∧
    (ctx.level = .disjunction ∨ ∃ χ, Reads ctx.level (vipLexing.lexemes vipAndScore) χ) ∧
    vipLexing.Gives (ctx.fill (.leaf vipAndScore))
      (.and vip (.not (.atom (Fragment.ofSql "blocked")))) ∧
    ofEntry Config.identity entry = .ok (some (.leaf vipAndScore)) ∧
    ∀ truth value, (∃ φ, vipLexing.Gives (ctx.fill (.leaf vipAndScore)) φ ∧
        φ.eval truth = value) ↔
      ∃ ψ, vipLexing.Gives (ctx.fill (.expr vipAndScore)) ψ ∧ ψ.eval truth = value := by
  intro entry ctx vip
  have hf : Config.identity.equation ("vip", .raw "true and score > 9") = .ok vipAndScore := rfl
  have lexemes : vipLexing.lexemes vipAndScore =
      [.atom (Fragment.ofSql "vip = true"), .and, .atom (Fragment.ofSql "score > 9")] :=
    if_pos rfl
  have shorter : Fragment.ofSql "blocked" ≠ vipAndScore := fun h =>
    absurd (congrArg (fun f => f.symbols.length) h) (by decide)
  have blocked : vipLexing.lexemes (Fragment.ofSql "blocked") =
      [.atom (Fragment.ofSql "blocked")] := if_neg shorter
  have fits : Reads .conjunction (vipLexing.lexemes vipAndScore) vip := by
    rw [lexemes]
    exact .and (.factor (.atom _)) (.atom _)
  have whole : vipLexing.ofCondition (ctx.fill (.leaf vipAndScore)) =
      vipLexing.lexemes vipAndScore ++
        .and :: (.lparen :: .not :: vipLexing.lexemes (Fragment.ofSql "blocked") ++ [.rparen]) :=
    rfl
  refine ⟨hf, .inr ⟨vip, fits⟩, ⟨vipLexing.render_eq _, ?_⟩,
    entry_keeps_grouping (.inl ⟨_, rfl⟩) hf vipLexing ctx (.inr ⟨vip, fits⟩)⟩
  rw [whole, blocked]
  exact .conjunction (.and fits (.group (.conjunction (.factor (.not (.atom _))))))

/-- Under `and` an operand that exposes an `or` loses its grouping: of the mapping of `a` to
`1 or true` and of `b` to a parameter, the condition is written `a = 1 or true and b = $1`, which
holds whatever `b` is as long as `a` is 1. -/
theorem entry_captures_neighbour :
    let a := Fragment.ofSql "a = 1"
    let t := Fragment.ofSql "true"
    let b := Fragment.ofSql "b = " ++ Fragment.ofValue (.int 2)
    let lexemes := [.atom a, .or, .atom t, .and, .atom b]
    ∃ c, ofRecord Config.default ⟨[("a", .raw "1 or true"), ("b", .value (.int 2))]⟩ =
        .ok (some c) ∧
      c.render = Fragment.concat (lexemes.map (Lexeme.text id)) ∧
      ∃ φ truth, Reads .disjunction lexemes φ ∧
        φ.eval truth ≠ (Formula.and (.or (.atom a) (.atom t)) (.atom b)).eval truth := by
  intro a t b lexemes
  refine ⟨.and (.leaf (Fragment.ofSql "a = " ++ Fragment.ofSql "1 or true")) (.leaf b), rfl, rfl,
    .or (.atom a) (.and (.atom t) (.atom b)),
    fun f => if f.args.isEmpty then .true else .false, ?_, ?_⟩
  · exact .or (.conjunction (.factor (.atom a))) (.and (.factor (.atom t)) (.atom b))
  · decide

end Condition

end SqlBuilder
