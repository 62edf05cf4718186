/-!
# Boolean SQL

A Boolean expression of SQL is a sequence of lexemes: atoms, operators and parentheses. `Reads`
is the grammar, in which `not` binds tighter than `and`, `and` binds tighter than `or`, and chains
of one operator are read from the left.

Formulas that differ only in how chains are nested regroup into each other; they are true under
the same assignments of SQL's three truth values.
-/

namespace SqlBuilder.Sql

variable {α β : Type}

/-! ### Formulas -/

/-- A Boolean expression over atoms. -/
inductive Formula (α : Type)
  | atom (a : α)
  | not (φ : Formula α)
  | and (φ ψ : Formula α)
  | or (φ ψ : Formula α)

/-- The truth values of SQL. -/
inductive Truth
  | false
  | unknown
  | true
  deriving DecidableEq

/-- What is unknown stays unknown. -/
def Truth.not : Truth → Truth
  | .false => .true
  | .unknown => .unknown
  | .true => .false

/-- False if one side is false, true if both are true. -/
def Truth.and : Truth → Truth → Truth
  | .false, _ => .false
  | .true, b => b
  | .unknown, .false => .false
  | .unknown, _ => .unknown

/-- True if one side is true, false if both are false. -/
def Truth.or : Truth → Truth → Truth
  | .true, _ => .true
  | .false, b => b
  | .unknown, .true => .true
  | .unknown, _ => .unknown

theorem Truth.and_assoc (a b c : Truth) : (a.and b).and c = a.and (b.and c) := by
  cases a <;> cases b <;> cases c <;> rfl

theorem Truth.or_assoc (a b c : Truth) : (a.or b).or c = a.or (b.or c) := by
  cases a <;> cases b <;> cases c <;> rfl

namespace Formula

/-- The truth of a formula when every atom has a truth value. -/
def eval (truth : α → Truth) : Formula α → Truth
  | .atom a => truth a
  | .not φ => (φ.eval truth).not
  | .and φ ψ => (φ.eval truth).and (ψ.eval truth)
  | .or φ ψ => (φ.eval truth).or (ψ.eval truth)

/-- The atoms from left to right. -/
def atoms : Formula α → List α
  | .atom a => [a]
  | .not φ => φ.atoms
  | .and φ ψ => φ.atoms ++ ψ.atoms
  | .or φ ψ => φ.atoms ++ ψ.atoms

/-- A formula with a formula in the place of every atom. -/
def bind (f : α → Formula β) : Formula α → Formula β
  | .atom a => f a
  | .not φ => .not (φ.bind f)
  | .and φ ψ => .and (φ.bind f) (ψ.bind f)
  | .or φ ψ => .or (φ.bind f) (ψ.bind f)

theorem bind_atom (φ : Formula α) : φ.bind .atom = φ := by
  induction φ with
  | atom a => rfl
  | not φ ih => rw [bind, ih]
  | and φ ψ ihφ ihψ | or φ ψ ihφ ihψ => rw [bind, ihφ, ihψ]

/-- The same formula up to the nesting of chains of one operator. -/
inductive Regroups : Formula α → Formula α → Prop
  | refl (φ : Formula α) : Regroups φ φ
  | symm {φ ψ : Formula α} (h : Regroups φ ψ) : Regroups ψ φ
  | trans {φ ψ χ : Formula α} (h : Regroups φ ψ) (h' : Regroups ψ χ) : Regroups φ χ
  | not {φ φ' : Formula α} (h : Regroups φ φ') : Regroups (.not φ) (.not φ')
  | and {φ φ' ψ ψ' : Formula α} (h : Regroups φ φ') (h' : Regroups ψ ψ') :
      Regroups (.and φ ψ) (.and φ' ψ')
  | or {φ φ' ψ ψ' : Formula α} (h : Regroups φ φ') (h' : Regroups ψ ψ') :
      Regroups (.or φ ψ) (.or φ' ψ')
  | andAssoc (φ ψ χ : Formula α) : Regroups (.and (.and φ ψ) χ) (.and φ (.and ψ χ))
  | orAssoc (φ ψ χ : Formula α) : Regroups (.or (.or φ ψ) χ) (.or φ (.or ψ χ))

/-- Regrouping does not change the truth of a formula. -/
theorem Regroups.eval_eq {φ ψ : Formula α} (h : φ.Regroups ψ) (truth : α → Truth) :
    φ.eval truth = ψ.eval truth := by
  induction h with
  | refl φ => rfl
  | symm _ ih => exact ih.symm
  | trans _ _ ih ih' => exact ih.trans ih'
  | not _ ih => rw [eval, ih, eval]
  | and _ _ ih ih' => rw [eval, ih, ih', eval]
  | or _ _ ih ih' => rw [eval, ih, ih', eval]
  | andAssoc φ ψ χ => exact Truth.and_assoc _ _ _
  | orAssoc φ ψ χ => exact Truth.or_assoc _ _ _

end Formula

/-! ### The grammar -/

/-- What a Boolean expression is written with. -/
inductive Lexeme (α : Type)
  | atom (a : α)
  | not
  | and
  | or
  | lparen
  | rparen
  deriving DecidableEq

/-- How tightly an expression holds together. -/
inductive Level
  | factor
  | conjunction
  | disjunction

/-- The lexemes read as a formula that holds together as tightly as the level says. -/
inductive Reads : Level → List (Lexeme α) → Formula α → Prop
  | atom (a : α) : Reads .factor [.atom a] (.atom a)
  | group {ts : List (Lexeme α)} {φ : Formula α} (h : Reads .disjunction ts φ) :
      Reads .factor (.lparen :: ts ++ [.rparen]) φ
  | not {ts : List (Lexeme α)} {φ : Formula α} (h : Reads .factor ts φ) :
      Reads .factor (.not :: ts) (.not φ)
  | factor {ts : List (Lexeme α)} {φ : Formula α} (h : Reads .factor ts φ) :
      Reads .conjunction ts φ
  | and {ts us : List (Lexeme α)} {φ ψ : Formula α} (h : Reads .conjunction ts φ)
      (h' : Reads .factor us ψ) : Reads .conjunction (ts ++ .and :: us) (.and φ ψ)
  | conjunction {ts : List (Lexeme α)} {φ : Formula α} (h : Reads .conjunction ts φ) :
      Reads .disjunction ts φ
  | or {ts us : List (Lexeme α)} {φ ψ : Formula α} (h : Reads .disjunction ts φ)
      (h' : Reads .conjunction us ψ) : Reads .disjunction (ts ++ .or :: us) (.or φ ψ)

namespace Reads

variable {ts us : List (Lexeme α)} {φ ψ : Formula α}

/-- What holds together tightly may stand wherever less is asked for. -/
theorem ofFactor (h : Reads .factor ts φ) : (level : Level) → Reads level ts φ
  | .factor => h
  | .conjunction => .factor h
  | .disjunction => .conjunction (.factor h)

theorem toDisjunction : {level : Level} → Reads level ts φ → Reads .disjunction ts φ
  | .factor, h => h.ofFactor .disjunction
  | .conjunction, h => .conjunction h
  | .disjunction, h => h

/-- Two conjunctions with `and` between them are one conjunction. -/
theorem append_and (h : Reads .conjunction ts φ) {us : List (Lexeme α)} {ψ : Formula α} :
    Reads .conjunction us ψ →
      ∃ χ, Reads .conjunction (ts ++ .and :: us) χ ∧ χ.Regroups (.and φ ψ)
  | .factor h' => ⟨.and φ ψ, .and h h', .refl _⟩
  | @Reads.and _ us us' ψ ψ' h' h'' => by
    obtain ⟨χ, read, same⟩ := append_and h h'
    refine ⟨.and χ ψ', ?_, .trans (.and same (.refl ψ')) (.andAssoc φ ψ ψ')⟩
    simpa using read.and h''

/-- Two disjunctions with `or` between them are one disjunction. -/
theorem append_or (h : Reads .disjunction ts φ) {us : List (Lexeme α)} {ψ : Formula α} :
    Reads .disjunction us ψ →
      ∃ χ, Reads .disjunction (ts ++ .or :: us) χ ∧ χ.Regroups (.or φ ψ)
  | .conjunction h' => ⟨.or φ ψ, .or h h', .refl _⟩
  | @Reads.or _ us us' ψ ψ' h' h'' => by
    obtain ⟨χ, read, same⟩ := append_or h h'
    refine ⟨.or χ ψ', ?_, .trans (.or same (.refl ψ')) (.orAssoc φ ψ ψ')⟩
    simpa using read.or h''

end Reads

end SqlBuilder.Sql
