import SqlBuilder.Condition
import SqlBuilder.Proofs.Sql.Reader
import SqlBuilder.Proofs.Traversal.Term

/-!
# Conditions keep their grouping

The text of a condition is a sequence of lexemes, and with SQL's precedence the sequence reads as
the tree that was written, up to the nesting of chains (`Condition.render_reads`).

A comparison may itself hold operators. `Condition.Fits` says how tightly its SQL has to hold
together: an `expr` stands in parentheses wherever that matters, but a `leaf` is bare under `and`
and under `not`. Where the comparisons fit their places, the condition reads as the tree with the
reading of each comparison in its place (`Condition.reads_of_fits`).
-/

namespace SqlBuilder

open Sql (Formula Lexeme Level Reads)

variable {α β : Type}

namespace Sql

namespace Lexeme

/-- The text of a lexeme, given the text of its atom. -/
def text (write : α → Fragment) : Lexeme α → Fragment
  | .atom a => write a
  | .not => Fragment.ofSql "not "
  | .and => Fragment.ofSql " and "
  | .or => Fragment.ofSql " or "
  | .lparen => Fragment.ofSql "("
  | .rparen => Fragment.ofSql ")"

/-- A lexeme with lexemes in the place of its atom. -/
def expand (sql : α → List (Lexeme β)) : Lexeme α → List (Lexeme β)
  | .atom a => sql a
  | .not => [.not]
  | .and => [.and]
  | .or => [.or]
  | .lparen => [.lparen]
  | .rparen => [.rparen]

/-- Lexemes, in parentheses on demand. -/
def wrap (parens : Bool) (ts : List (Lexeme α)) : List (Lexeme α) :=
  if parens then .lparen :: ts ++ [.rparen] else ts

theorem flatMap_expand_atom (ts : List (Lexeme α)) :
    ts.flatMap (expand fun a => [.atom a]) = ts := by
  induction ts with
  | nil => rfl
  | cons t ts ih => cases t <;> rw [List.flatMap_cons, ih] <;> rfl

theorem flatMap_expand_wrap (sql : α → List (Lexeme β)) (parens : Bool) (ts : List (Lexeme α)) :
    (wrap parens ts).flatMap (expand sql) = wrap parens (ts.flatMap (expand sql)) := by
  cases parens with
  | false => rfl
  | true => simp [wrap, expand]

end Lexeme

end Sql

/-- The comparisons that a condition is made of. -/
inductive Comparison
  | leaf (f : Fragment)
  | expr (f : Fragment)

/-- The text of a comparison. -/
def Comparison.fragment : Comparison → Fragment
  | .leaf f => f
  | .expr f => f

namespace Condition

/-- The condition as a formula over its comparisons. -/
def formula : Condition → Formula Comparison
  | .leaf f => .atom (.leaf f)
  | .expr f => .atom (.expr f)
  | .not c => .not c.formula
  | .and c d => .and c.formula d.formula
  | .or c d => .or c.formula d.formula

/-- The lexemes that the condition is written with. -/
def lexemes : Condition → List (Lexeme Comparison)
  | .leaf f => [.atom (.leaf f)]
  | .expr f => [.atom (.expr f)]
  | .not c => .not :: Lexeme.wrap (c.needsParens .not) c.lexemes
  | .and c d =>
    Lexeme.wrap (c.needsParens .and) c.lexemes ++
      .and :: Lexeme.wrap (d.needsParens .and) d.lexemes
  | .or c d =>
    Lexeme.wrap (c.needsParens .or) c.lexemes ++
      .or :: Lexeme.wrap (d.needsParens .or) d.lexemes

/-- The parts of a condition are the texts of its lexemes. -/
theorem parts_eq (c : Condition) (after : List Fragment) :
    c.parts after = c.lexemes.map (Lexeme.text Comparison.fragment) ++ after := by
  have enclosed (c : Condition)
      (h : ∀ after, c.parts after = c.lexemes.map (Lexeme.text Comparison.fragment) ++ after)
      (parens : Bool) (after : List Fragment) : enclose parens c.parts after =
        (Lexeme.wrap parens c.lexemes).map (Lexeme.text Comparison.fragment) ++ after := by
    cases parens with
    | false => exact h after
    | true => simp [enclose, Lexeme.wrap, h, Lexeme.text]
  induction c generalizing after with
  | leaf f => rfl
  | expr f => rfl
  | not c ih => simp [parts, lexemes, enclosed c ih, Lexeme.text]
  | and c d ihc ihd => simp [parts, lexemes, enclosed c ihc, enclosed d ihd, Lexeme.text]
  | or c d ihc ihd => simp [parts, lexemes, enclosed c ihc, enclosed d ihd, Lexeme.text]

/-- The text of a condition is the text of its lexemes. -/
theorem render_eq (c : Condition) :
    c.render = Fragment.concat (c.lexemes.map (Lexeme.text Comparison.fragment)) := by
  rw [render, parts_eq, List.append_nil]

/-! ### The reading -/

/-- The comparisons hold together as tightly as their places ask for, when a relation says how
tightly each does: as a factor under `not`, as a conjunction under `and`. An `expr`, and a `leaf`
under `or`, stand in parentheses or alone. -/
def Fits (holds : Level → Comparison → Prop) : (place : Level) → Condition → Prop
  | place, .leaf f => holds place (.leaf f)
  | _, .expr f => holds .disjunction (.expr f)
  | _, .not c => c.Fits holds .factor
  | _, .and c d => c.Fits holds .conjunction ∧ d.Fits holds .conjunction
  | _, .or c d => c.Fits holds .disjunction ∧ d.Fits holds .disjunction

/-- How tightly the bare text of a condition holds together at a place. -/
def level (place : Level) : Condition → Level
  | .leaf _ => place
  | .expr _ => .disjunction
  | .not _ => .factor
  | .and .. => .conjunction
  | .or .. => .disjunction

end Condition

/-- How tightly the operands of an operator hold together. -/
def Connective.operandLevel : Connective → Level
  | .not => .factor
  | .and => .conjunction
  | .or => .disjunction

namespace Condition

variable {sql : Comparison → List (Lexeme β)} {reading : Comparison → Formula β}

/-- A condition without parentheses holds together as tightly as the operator asks for. -/
theorem level_of_bare {parent : Connective} {c : Condition} (bare : c.needsParens parent = false) :
    c.level parent.operandLevel = parent.operandLevel := by
  cases c with
  | leaf f => rfl
  | expr f => cases bare
  | not c => cases bare
  | and c d =>
    obtain rfl : parent = .and := by simpa [needsParens] using bare
    rfl
  | or c d =>
    obtain rfl : parent = .or := by simpa [needsParens] using bare
    rfl

/-- An operand of an operator, in parentheses where it needs them, holds together as tightly as
the operator asks for. -/
theorem reads_operand (parent : Connective) {c : Condition} {φ : Formula β}
    (h : Reads (c.level parent.operandLevel) (c.lexemes.flatMap (Lexeme.expand sql)) φ) :
    Reads parent.operandLevel
      ((Lexeme.wrap (c.needsParens parent) c.lexemes).flatMap (Lexeme.expand sql)) φ := by
  rw [Lexeme.flatMap_expand_wrap]
  cases parens : c.needsParens parent with
  | true => exact (Reads.group h.toDisjunction).ofFactor _
  | false => rwa [level_of_bare parens] at h

/-- Where the comparisons fit their places, the condition reads as its tree with the reading of
each comparison in its place. -/
theorem reads_of_fits (c : Condition) {place : Level}
    (h : c.Fits (fun level a => Reads level (sql a) (reading a)) place) :
    ∃ φ, Reads (c.level place) (c.lexemes.flatMap (Lexeme.expand sql)) φ ∧
      φ.Regroups (c.formula.bind reading) := by
  induction c generalizing place with
  | leaf f =>
    refine ⟨reading (.leaf f), ?_, .refl _⟩
    simpa [lexemes, Lexeme.expand, Fits, level] using h
  | expr f =>
    refine ⟨reading (.expr f), ?_, .refl _⟩
    simpa [lexemes, Lexeme.expand, Fits, level] using h
  | not c ih =>
    obtain ⟨φ, read, same⟩ := ih h
    exact ⟨.not φ, .not (reads_operand .not read), .not same⟩
  | and c d ihc ihd =>
    obtain ⟨φ, read, same⟩ := ihc h.1
    obtain ⟨ψ, read', same'⟩ := ihd h.2
    obtain ⟨χ, both, regroups⟩ := (reads_operand .and read).append_and (reads_operand .and read')
    refine ⟨χ, ?_, .trans regroups (.and same same')⟩
    rw [lexemes, List.flatMap_append]
    exact both
  | or c d ihc ihd =>
    obtain ⟨φ, read, same⟩ := ihc h.1
    obtain ⟨ψ, read', same'⟩ := ihd h.2
    obtain ⟨χ, both, regroups⟩ := (reads_operand .or read).append_or (reads_operand .or read')
    refine ⟨χ, ?_, .trans regroups (.or same same')⟩
    rw [lexemes, List.flatMap_append]
    exact both

/-! ### Opaque text -/

/-- Every `expr` has its own parentheses directly around it. -/
def ExprsEnclosed (ts : List (Lexeme Comparison)) : Prop :=
  ∀ before f after, ts = before ++ .atom (.expr f) :: after →
    before.getLast? = some .lparen ∧ after.head? = some .rparen

theorem ExprsEnclosed.append {ts us : List (Lexeme Comparison)} (hts : ExprsEnclosed ts)
    (hus : ExprsEnclosed us) : ExprsEnclosed (ts ++ us) := by
  intro before f after h
  rcases List.append_eq_append_iff.1 h with ⟨middle, rfl, split⟩ | ⟨middle, split, ends⟩
  · obtain ⟨opened, closed⟩ := hus middle f after split
    exact ⟨by simp [List.getLast?_append, opened], closed⟩
  · cases middle with
    | nil =>
      obtain ⟨opened, -⟩ := hus [] f after (by simpa using ends.symm)
      cases opened
    | cons t middle =>
      cases ends
      obtain ⟨opened, closed⟩ := hts before f middle split
      exact ⟨opened, by simp [List.head?_append, closed]⟩

theorem exprsEnclosed_singleton {t : Lexeme Comparison} (h : ∀ f, t ≠ .atom (.expr f)) :
    ExprsEnclosed [t] := by
  intro before f after split
  cases before with
  | nil =>
    cases split
    exact absurd rfl (h f)
  | cons t' before => simp at split

/-- Either a condition is a single `expr`, or every `expr` in it stands in its own parentheses. -/
theorem exprsEnclosed (c : Condition) : (∃ f, c = .expr f) ∨ ExprsEnclosed c.lexemes := by
  have wrapped (c : Condition) (h : (∃ f, c = .expr f) ∨ ExprsEnclosed c.lexemes)
      (parent : Connective) :
      ExprsEnclosed (Lexeme.wrap (c.needsParens parent) c.lexemes) := by
    rcases h with ⟨f, rfl⟩ | enclosed
    · intro before g after split
      have text : Lexeme.wrap ((Condition.expr f).needsParens parent) (Condition.expr f).lexemes =
          [.lparen, .atom (.expr f), .rparen] := rfl
      rw [text] at split
      match before with
      | [] => cases split
      | [_] =>
        cases split
        exact ⟨rfl, rfl⟩
      | [_, _] => cases split
      | _ :: _ :: _ :: _ => simp at split
    · cases parens : c.needsParens parent with
      | false => exact enclosed
      | true =>
        have opened := (exprsEnclosed_singleton (t := .lparen) nofun).append enclosed
        exact opened.append (exprsEnclosed_singleton (t := .rparen) nofun)
  induction c with
  | leaf f => exact .inr (exprsEnclosed_singleton nofun)
  | expr f => exact .inl ⟨f, rfl⟩
  | not c ih => exact .inr ((exprsEnclosed_singleton (t := .not) nofun).append (wrapped c ih .not))
  | and c d ihc ihd =>
    have right := (exprsEnclosed_singleton (t := .and) nofun).append (wrapped d ihd .and)
    exact .inr ((wrapped c ihc .and).append right)
  | or c d ihc ihd =>
    have right := (exprsEnclosed_singleton (t := .or) nofun).append (wrapped d ihd .or)
    exact .inr ((wrapped c ihc .or).append right)

/-- The parameters of a condition are those of its comparisons from left to right. -/
theorem args_eq_atoms (c : Condition) :
    c.args = c.formula.atoms.flatMap fun a => a.fragment.args := by
  induction c with
  | leaf f => exact (List.append_nil f.args).symm
  | expr f => exact (List.append_nil f.args).symm
  | not c ih => exact ih
  | and c d ihc ihd => rw [args, ihc, ihd, formula, Formula.atoms, List.flatMap_append]
  | or c d ihc ihd => rw [args, ihc, ihd, formula, Formula.atoms, List.flatMap_append]

/-- The text of a condition is a sequence of lexemes that reads, with SQL's precedence, as one
formula and no other. The formula is the tree of the condition up to the nesting of chains, so
it is true under the same assignments. Every `expr` is all of the text or stands in its own
parentheses, and the parameters are those of the comparisons from left to right. -/
theorem render_reads (c : Condition) :
    c.render = Fragment.concat (c.lexemes.map (Lexeme.text Comparison.fragment)) ∧
    (∃ φ, Reads .disjunction c.lexemes φ ∧ (∀ ψ, Reads .disjunction c.lexemes ψ → ψ = φ) ∧
      φ.Regroups c.formula ∧ ∀ truth, φ.eval truth = c.formula.eval truth) ∧
    (∀ before f after, c.lexemes = before ++ .atom (.expr f) :: after →
      before = [] ∧ after = [] ∨
        before.getLast? = some .lparen ∧ after.head? = some .rparen) ∧
    c.render.args = c.formula.atoms.flatMap fun a => a.fragment.args := by
  refine ⟨c.render_eq, ?_, fun before f after split => ?_, ?_⟩
  · have atomic (c : Condition) (place : Level) :
        c.Fits (fun level a => Reads level [.atom a] (.atom a)) place := by
      induction c generalizing place with
      | leaf f => exact (Reads.atom _).ofFactor place
      | expr f => exact (Reads.atom _).ofFactor .disjunction
      | not c ih => exact ih .factor
      | and c d ihc ihd => exact ⟨ihc .conjunction, ihd .conjunction⟩
      | or c d ihc ihd => exact ⟨ihc .disjunction, ihd .disjunction⟩
    obtain ⟨φ, read, same⟩ := c.reads_of_fits (atomic c .disjunction)
    rw [Lexeme.flatMap_expand_atom] at read
    rw [Formula.bind_atom] at same
    exact ⟨φ, read.toDisjunction, fun ψ h => h.unique read.toDisjunction, same, same.eval_eq⟩
  · rcases c.exprsEnclosed with ⟨g, rfl⟩ | enclosed
    · left
      have single : before ++ .atom (.expr f) :: after = [.atom (.expr g)] := split.symm
      have none := congrArg List.length single
      simp only [List.length_append, List.length_cons, List.length_nil] at none
      exact ⟨List.eq_nil_of_length_eq_zero (by omega), List.eq_nil_of_length_eq_zero (by omega)⟩
    · exact .inr (enclosed before f after split)
  · rw [args_render, args_eq_atoms]

end Condition

end SqlBuilder
