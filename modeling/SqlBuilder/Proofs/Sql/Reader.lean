import Mathlib.Data.List.Forall2
import SqlBuilder.Proofs.Sql.Boolean

/-!
# Reading Boolean SQL

A reader goes through lexemes once, from left to right, and keeps what the groups around it still
wait for. It finds exactly the formula that the grammar gives (`read_eq_some_iff`), so lexemes read
as at most one formula (`Reads.unique`).

Readers that agree up to the nesting of chains go on agreeing, whatever comes next. Hence a group
may lose its parentheses where nothing around it binds tighter than what is inside
(`Reads.ungroup`).
-/

namespace SqlBuilder.Sql

variable {α : Type}

/-- A group while it is read: the left sides of an `or` and of an `and` whose right sides are
still to come, and the number of negations in front of the next operand. -/
structure Group (α : Type) where
  disjunction? : Option (Formula α)
  conjunction? : Option (Formula α)
  negations : Nat

/-- A formula behind a number of negations. -/
def Formula.negate : Nat → Formula α → Formula α
  | 0, φ => φ
  | n + 1, φ => negate n (.not φ)

namespace Group

/-- A group of which nothing has been read. -/
def start : Group α := ⟨none, none, 0⟩

/-- The conjunction that ends with an operand. -/
def conjunction (g : Group α) (operand : Formula α) : Formula α :=
  match g.conjunction? with
  | none => operand
  | some φ => .and φ operand

/-- The formula of a group that ends with an operand. -/
def formula (g : Group α) (operand : Formula α) : Formula α :=
  match g.disjunction? with
  | none => g.conjunction operand
  | some φ => .or φ (g.conjunction operand)

end Group

/-- A reader: the groups around the current one, innermost first, the current group, and the
operand that has just been read in it. -/
structure Reader (α : Type) where
  outer : List (Group α)
  group : Group α
  operand? : Option (Formula α)

namespace Reader

/-- Takes up one lexeme; fails where it cannot stand. -/
def step (r : Reader α) (t : Lexeme α) : Option (Reader α) :=
  match t, r with
  | .atom a, ⟨outer, ⟨d, c, n⟩, none⟩ => some ⟨outer, ⟨d, c, 0⟩, some (.negate n (.atom a))⟩
  | .not, ⟨outer, ⟨d, c, n⟩, none⟩ => some ⟨outer, ⟨d, c, n + 1⟩, none⟩
  | .and, ⟨outer, g, some φ⟩ => some ⟨outer, ⟨g.disjunction?, some (g.conjunction φ), 0⟩, none⟩
  | .or, ⟨outer, g, some φ⟩ => some ⟨outer, ⟨some (g.formula φ), none, 0⟩, none⟩
  | .lparen, ⟨outer, g, none⟩ => some ⟨g :: outer, .start, none⟩
  | .rparen, ⟨⟨d, c, n⟩ :: outer, g, some φ⟩ =>
    some ⟨outer, ⟨d, c, 0⟩, some (.negate n (g.formula φ))⟩
  | _, _ => none

theorem step_rparen (outer : List (Group α)) (g : Group α) :
    step ⟨outer, g, none⟩ .rparen = none := by
  cases outer <;> rfl

/-- What a reader makes of lexemes that hold together as tightly as the level says: a factor is
the next operand, a conjunction or a disjunction fills a group that has just begun. -/
def Takes (ts : List (Lexeme α)) (φ : Formula α) : Level → Prop
  | .factor => ∀ outer d c n, ts.foldlM step ⟨outer, ⟨d, c, n⟩, none⟩ =
      some ⟨outer, ⟨d, c, 0⟩, some (.negate n φ)⟩
  | .conjunction => ∀ outer d, ∃ c ψ, ts.foldlM step ⟨outer, ⟨d, none, 0⟩, none⟩ =
      some ⟨outer, ⟨d, c, 0⟩, some ψ⟩ ∧ Group.conjunction ⟨d, c, 0⟩ ψ = φ
  | .disjunction => ∀ outer, ∃ d c ψ, ts.foldlM step ⟨outer, .start, none⟩ =
      some ⟨outer, ⟨d, c, 0⟩, some ψ⟩ ∧ Group.formula ⟨d, c, 0⟩ ψ = φ

end Reader

namespace Reads

/-- A reader finds the formula that the grammar gives. -/
theorem takes {level : Level} {ts : List (Lexeme α)} {φ : Formula α} (h : Reads level ts φ) :
    Reader.Takes ts φ level := by
  induction h with
  | atom a =>
    intro outer d c n
    rfl
  | group _ ih =>
    intro outer d c n
    obtain ⟨d', c', ψ, read, rfl⟩ := ih (⟨d, c, n⟩ :: outer)
    rw [List.cons_append, List.foldlM_cons]
    simp [Reader.step, List.foldlM_append, read]
  | not _ ih =>
    intro outer d c n
    exact ih outer d c (n + 1)
  | factor _ ih =>
    intro outer d
    exact ⟨none, _, ih outer d none 0, rfl⟩
  | @and _ _ _ ψ _ _ ih ih' =>
    intro outer d
    obtain ⟨c, χ, read, rfl⟩ := ih outer d
    refine ⟨some (Group.conjunction ⟨d, c, 0⟩ χ), ψ, ?_, rfl⟩
    rw [List.foldlM_append, read]
    exact ih' outer d (some (Group.conjunction ⟨d, c, 0⟩ χ)) 0
  | conjunction _ ih =>
    intro outer
    obtain ⟨c, ψ, read, rfl⟩ := ih outer none
    exact ⟨none, c, ψ, read, rfl⟩
  | or _ _ ih ih' =>
    intro outer
    obtain ⟨d, c, ψ, read, rfl⟩ := ih outer
    obtain ⟨c', ψ', read', rfl⟩ := ih' outer (some (Group.formula ⟨d, c, 0⟩ ψ))
    refine ⟨some (Group.formula ⟨d, c, 0⟩ ψ), c', ψ', ?_, rfl⟩
    rw [List.foldlM_append, read]
    exact read'

end Reads

/-! ### The reader finds nothing else -/

/-- A factor behind a number of negations. -/
theorem Reads.negate {ts : List (Lexeme α)} {φ : Formula α} (h : Reads .factor ts φ) (n : Nat) :
    Reads .factor (List.replicate n .not ++ ts) (.negate n φ) := by
  induction n generalizing ts φ with
  | zero => exact h
  | succ n ih =>
    rw [List.replicate_succ', List.append_assoc]
    exact ih (.not h)

/-- The lexemes of a left side with its operator; none if there is no left side. -/
inductive LeftSide (level : Level) (op : Lexeme α) : Option (Formula α) → List (Lexeme α) → Prop
  | none : LeftSide level op none []
  | some {ts : List (Lexeme α)} {φ : Formula α} (h : Reads level ts φ) :
      LeftSide level op (some φ) (ts ++ [op])

/-- The lexemes of a group in front of its next operand. -/
inductive Group.Covers : Group α → List (Lexeme α) → Prop
  | intro {d c : Option (Formula α)} {n : Nat} {ds cs : List (Lexeme α)}
      (hd : LeftSide .disjunction .or d ds) (hc : LeftSide .conjunction .and c cs) :
      Covers ⟨d, c, n⟩ (ds ++ (cs ++ List.replicate n .not))

/-- The lexemes in front of the current group. -/
inductive Opened : List (Group α) → List (Lexeme α) → Prop
  | nil : Opened [] []
  | cons {g : Group α} {outer : List (Group α)} {os gs : List (Lexeme α)} (h : Opened outer os)
      (hg : g.Covers gs) : Opened (g :: outer) (os ++ (gs ++ [.lparen]))

/-- The lexemes that a reader has gone through. -/
inductive Reader.Covers : Reader α → List (Lexeme α) → Prop
  | awaiting {outer : List (Group α)} {g : Group α} {os gs : List (Lexeme α)}
      (ho : Opened outer os) (hg : g.Covers gs) : Covers ⟨outer, g, none⟩ (os ++ gs)
  | operand {outer : List (Group α)} {d c : Option (Formula α)} {φ : Formula α}
      {os ds cs us : List (Lexeme α)} (ho : Opened outer os) (hd : LeftSide .disjunction .or d ds)
      (hc : LeftSide .conjunction .and c cs) (h : Reads .factor us φ) :
      Covers ⟨outer, ⟨d, c, 0⟩, some φ⟩ (os ++ (ds ++ (cs ++ us)))

section

variable {d c : Option (Formula α)} {ds cs us : List (Lexeme α)} {φ : Formula α}

theorem Group.reads_conjunction (hc : LeftSide .conjunction .and c cs)
    (h : Reads .factor us φ) :
    Reads .conjunction (cs ++ us) (Group.conjunction ⟨d, c, 0⟩ φ) := by
  cases hc with
  | none => exact .factor h
  | some h' =>
    rw [List.append_assoc]
    exact .and h' h

theorem Group.reads_formula (hd : LeftSide .disjunction .or d ds)
    (hc : LeftSide .conjunction .and c cs) (h : Reads .factor us φ) :
    Reads .disjunction (ds ++ (cs ++ us)) (Group.formula ⟨d, c, 0⟩ φ) := by
  have conjunction := Group.reads_conjunction (d := d) hc h
  cases hd with
  | none => exact .conjunction conjunction
  | some h' =>
    rw [List.append_assoc]
    exact .or h' conjunction

end

namespace Reader

variable {r r' : Reader α} {ts : List (Lexeme α)}

/-- One more lexeme is covered by what a reader makes of it. -/
theorem Covers.step (h : r.Covers ts) {t : Lexeme α} (hs : r.step t = some r') :
    r'.Covers (ts ++ [t]) := by
  -- A reader waits for an operand or stands behind one. Either way it takes half of the lexemes,
  -- and the cases of the other half contradict `hs`.
  cases h with
  | awaiting ho hg =>
    cases hg with
    | @intro d c n ds cs hd hc =>
      cases t with
      | atom a =>
        cases hs
        simpa using Covers.operand ho hd hc ((Reads.atom a).negate n)
      | not =>
        cases hs
        have longer : Group.Covers ⟨d, c, n + 1⟩ _ := .intro hd hc
        simpa [List.replicate_succ'] using Covers.awaiting ho longer
      | lparen =>
        cases hs
        have start : (Group.start : Group α).Covers [] := .intro .none .none
        simpa using Covers.awaiting (.cons ho (.intro hd hc)) start
      | and | or => cases hs
      | rparen =>
        rw [step_rparen] at hs
        cases hs
  | @operand outer d c φ os ds cs us ho hd hc h =>
    cases t with
    | and =>
      cases hs
      have left := Group.reads_conjunction (d := d) hc h
      have group : Group.Covers ⟨d, some _, 0⟩ _ := .intro hd (.some left)
      simpa using Covers.awaiting ho group
    | or =>
      cases hs
      have left := Group.reads_formula hd hc h
      have group : Group.Covers ⟨some _, none, 0⟩ _ := .intro (.some left) .none
      simpa using Covers.awaiting ho group
    | rparen =>
      cases ho with
      | nil => cases hs
      | cons ho hg =>
        cases hg with
        | @intro d' c' n ds' cs' hd' hc' =>
          cases hs
          have closed := (Reads.group (Group.reads_formula hd hc h)).negate n
          simpa using Covers.operand ho hd' hc' closed
    | atom | not | lparen => cases hs

theorem Covers.run (h : r.Covers ts) {us : List (Lexeme α)}
    (hs : us.foldlM Reader.step r = some r') :
    r'.Covers (ts ++ us) := by
  induction us generalizing r ts with
  | nil =>
    cases hs
    simpa using h
  | cons u us ih =>
    rw [List.foldlM_cons] at hs
    obtain ⟨r'', first, rest⟩ := Option.bind_eq_some_iff.1 hs
    simpa using ih (h.step first) rest

/-- The formula of a reader at the end of its lexemes: no group is open, and an operand has been
read. -/
def formula? : Reader α → Option (Formula α)
  | ⟨[], g, some φ⟩ => some (g.formula φ)
  | _ => none

theorem formula?_awaiting (outer : List (Group α)) (g : Group α) :
    formula? ⟨outer, g, none⟩ = none := by
  cases outer <;> rfl

end Reader

/-- The formula that lexemes read as, if they are a Boolean expression. -/
def read (ts : List (Lexeme α)) : Option (Formula α) :=
  (ts.foldlM Reader.step ⟨[], .start, none⟩).bind Reader.formula?

/-- The reader finds the formula of the grammar and no other. -/
theorem read_eq_some_iff {ts : List (Lexeme α)} {φ : Formula α} :
    read ts = some φ ↔ Reads .disjunction ts φ := by
  constructor
  · intro h
    obtain ⟨r, hr, formula⟩ := Option.bind_eq_some_iff.1 h
    have start : Reader.Covers (⟨[], .start, none⟩ : Reader α) [] :=
      .awaiting .nil (.intro .none .none)
    have covers : r.Covers ts := start.run hr
    cases covers with
    | awaiting =>
      rw [Reader.formula?_awaiting] at formula
      cases formula
    | operand ho hd hc operand =>
      cases ho with
      | nil =>
        cases formula
        simpa using Group.reads_formula hd hc operand
      | cons => cases formula
  · intro h
    obtain ⟨d, c, ψ, hr, rfl⟩ := h.takes []
    rw [read, hr]
    rfl

/-- Lexemes read as at most one formula. -/
theorem Reads.unique {ts : List (Lexeme α)} {φ ψ : Formula α} (h : Reads .disjunction ts φ)
    (h' : Reads .disjunction ts ψ) : φ = ψ := by
  rw [← read_eq_some_iff] at h h'
  exact Option.some.inj (h.symm.trans h')

/-! ### Readers that agree up to regrouping -/

theorem rel_bind {β γ δ : Type} {R : α → β → Prop} {S : γ → δ → Prop} {x : Option α}
    {y : Option β} {f : α → Option γ} {g : β → Option δ} (h : Option.Rel R x y)
    (next : ∀ a b, R a b → Option.Rel S (f a) (g b)) : Option.Rel S (x.bind f) (y.bind g) := by
  cases h with
  | none => exact .none
  | some related => exact next _ _ related

theorem Formula.Regroups.negate {φ ψ : Formula α} (h : φ.Regroups ψ) (n : Nat) :
    (Formula.negate n φ).Regroups (.negate n ψ) := by
  induction n generalizing φ ψ with
  | zero => exact h
  | succ n ih => exact ih (.not h)

theorem rel_regroups_refl (φ? : Option (Formula α)) : Option.Rel Formula.Regroups φ? φ? := by
  cases φ? with
  | none => exact .none
  | some φ => exact .some (.refl φ)

/-- What regroups has the same truth, where it reads at all. -/
theorem eval_of_rel_regroups {φ? ψ? : Option (Formula α)}
    (h : Option.Rel Formula.Regroups φ? ψ?) (truth : α → Truth) :
    φ?.map (Formula.eval truth) = ψ?.map (Formula.eval truth) := by
  cases h with
  | none => rfl
  | some same => exact congrArg some (same.eval_eq truth)

/-- Two groups wait for their next operand with the same left sides, up to regrouping. -/
structure Group.Regroups (g g' : Group α) : Prop where
  disjunction : Option.Rel Formula.Regroups g.disjunction? g'.disjunction?
  conjunction : Option.Rel Formula.Regroups g.conjunction? g'.conjunction?
  negations : g.negations = g'.negations

theorem Group.Regroups.refl (g : Group α) : g.Regroups g :=
  ⟨rel_regroups_refl _, rel_regroups_refl _, rfl⟩

theorem Group.conjunction_regroups {d d' c c' : Option (Formula α)} {φ ψ : Formula α}
    (hc : Option.Rel Formula.Regroups c c') (h : φ.Regroups ψ) :
    (Group.conjunction ⟨d, c, 0⟩ φ).Regroups (Group.conjunction ⟨d', c', 0⟩ ψ) := by
  cases hc with
  | none => exact h
  | some same => exact .and same h

theorem Group.formula_regroups {g g' : Group α} {φ ψ : Formula α}
    (hd : Option.Rel Formula.Regroups g.disjunction? g'.disjunction?)
    (hc : (g.conjunction φ).Regroups (g'.conjunction ψ)) :
    (g.formula φ).Regroups (g'.formula ψ) := by
  obtain ⟨d, c, n⟩ := g
  obtain ⟨d', c', n'⟩ := g'
  cases hd with
  | none => exact hc
  | some same => exact .or same hc

namespace Reader

/-- Two readers agree up to regrouping. Behind an operand it does not matter which part of a chain
is its left side, only what the chain is up to here. -/
inductive Regroups : Reader α → Reader α → Prop
  | awaiting {outer outer' : List (Group α)} {g g' : Group α}
      (ho : List.Forall₂ Group.Regroups outer outer') (hg : g.Regroups g') :
      Regroups ⟨outer, g, none⟩ ⟨outer', g', none⟩
  | operand {outer outer' : List (Group α)} {g g' : Group α} {φ ψ : Formula α}
      (ho : List.Forall₂ Group.Regroups outer outer')
      (hd : Option.Rel Formula.Regroups g.disjunction? g'.disjunction?)
      (hc : (g.conjunction φ).Regroups (g'.conjunction ψ)) :
      Regroups ⟨outer, g, some φ⟩ ⟨outer', g', some ψ⟩

namespace Regroups

variable {r r' : Reader α}

/-- Readers that agree take up the next lexeme alike. -/
theorem step (h : r.Regroups r') (t : Lexeme α) :
    Option.Rel Regroups (r.step t) (r'.step t) := by
  cases h with
  | @awaiting outer outer' g g' ho hg =>
    obtain ⟨d, c, n⟩ := g
    obtain ⟨d', c', n'⟩ := g'
    obtain rfl : n = n' := hg.negations
    cases t with
    | atom a =>
      have operand : (Formula.negate n (.atom a)).Regroups (.negate n (.atom a)) := .refl _
      exact .some (.operand ho hg.disjunction (Group.conjunction_regroups hg.conjunction operand))
    | not => exact .some (.awaiting ho ⟨hg.disjunction, hg.conjunction, rfl⟩)
    | lparen =>
      have start : (Group.start : Group α).Regroups .start := ⟨.none, .none, rfl⟩
      exact .some (.awaiting (.cons hg ho) start)
    | and | or => exact .none
    | rparen =>
      rw [step_rparen, step_rparen]
      exact .none
  | @operand outer outer' g g' φ ψ ho hd hc =>
    have formula := Group.formula_regroups hd hc
    cases t with
    | and => exact .some (.awaiting ho ⟨hd, .some hc, rfl⟩)
    | or => exact .some (.awaiting ho ⟨.some formula, .none, rfl⟩)
    | rparen =>
      cases ho with
      | nil => exact .none
      | @cons o o' outer outer' head tail =>
        obtain ⟨d, c, n⟩ := o
        obtain ⟨d', c', n'⟩ := o'
        obtain rfl : n = n' := head.negations
        have closed : (Group.conjunction ⟨d, c, 0⟩ (.negate n (g.formula φ))).Regroups
            (Group.conjunction ⟨d', c', 0⟩ (.negate n (g'.formula ψ))) :=
          Group.conjunction_regroups head.conjunction (formula.negate n)
        exact .some (.operand tail head.disjunction closed)
    | atom | not | lparen => exact .none

theorem run (h : r.Regroups r') (ts : List (Lexeme α)) :
    Option.Rel Regroups (ts.foldlM Reader.step r) (ts.foldlM Reader.step r') := by
  induction ts generalizing r r' with
  | nil => exact .some h
  | cons t ts ih =>
    rw [List.foldlM_cons, List.foldlM_cons]
    exact rel_bind (h.step t) fun _ _ same => ih same

theorem formula? (h : r.Regroups r') : Option.Rel Formula.Regroups r.formula? r'.formula? := by
  cases h with
  | awaiting =>
    rw [formula?_awaiting, formula?_awaiting]
    exact .none
  | operand ho hd hc =>
    cases ho with
    | nil => exact .some (Group.formula_regroups hd hc)
    | cons => exact .none

end Regroups

/-- Only `not` leaves a negation waiting. -/
theorem negations_eq_zero {r r' : Reader α} {t : Lexeme α} (hs : r.step t = some r')
    (h : t ≠ .not) : r'.group.negations = 0 := by
  obtain ⟨outer, ⟨d, c, n⟩, operand⟩ := r
  cases t with
  | not => exact absurd rfl h
  | atom | lparen =>
    cases operand with
    | none =>
      cases hs
      rfl
    | some => cases hs
  | and | or =>
    cases operand with
    | none => cases hs
    | some =>
      cases hs
      rfl
  | rparen =>
    cases operand with
    | none =>
      rw [step_rparen] at hs
      cases hs
    | some =>
      cases outer with
      | nil => cases hs
      | cons =>
        cases hs
        rfl

theorem negations_of_run {before : List (Lexeme α)} {r : Reader α}
    (hr : before.foldlM Reader.step ⟨[], .start, none⟩ = some r)
    (h : before.getLast? ≠ some .not) : r.group.negations = 0 := by
  rcases List.eq_nil_or_concat before with rfl | ⟨init, t, rfl⟩
  · cases hr
    rfl
  · rw [List.concat_eq_append, List.foldlM_append] at hr
    obtain ⟨r', -, last⟩ := Option.bind_eq_some_iff.1 hr
    rw [List.foldlM_cons] at last
    obtain ⟨r'', hs, done⟩ := Option.bind_eq_some_iff.1 last
    cases done
    refine negations_eq_zero hs ?_
    rintro rfl
    simp at h

end Reader

/-! ### Parentheses that may be left out -/

namespace Reads

/-- A conjunction goes on with the conjunction in front of it. -/
theorem takes_conjunction (outer : List (Group α)) (d c : Option (Formula α))
    {ts : List (Lexeme α)} {φ : Formula α} : Reads .conjunction ts φ →
      ∃ c' ψ, ts.foldlM Reader.step ⟨outer, ⟨d, c, 0⟩, none⟩ =
          some ⟨outer, ⟨d, c', 0⟩, some ψ⟩ ∧
        (Group.conjunction ⟨d, c', 0⟩ ψ).Regroups (Group.conjunction ⟨d, c, 0⟩ φ)
  | .factor h => ⟨c, φ, h.takes outer d c 0, .refl _⟩
  | @Reads.and _ ts us φ ψ h' h'' => by
    obtain ⟨c', χ, read, same⟩ := takes_conjunction outer d c h'
    refine ⟨some (Group.conjunction ⟨d, c', 0⟩ χ), ψ, ?_, ?_⟩
    · rw [List.foldlM_append, read]
      exact h''.takes outer d _ 0
    · have longer := same.and (.refl ψ)
      cases c with
      | none => exact longer
      | some χ' => exact longer.trans (.andAssoc χ' φ ψ)

/-- An expression cannot follow an operand. -/
theorem stuck {level : Level} {ts : List (Lexeme α)} {φ : Formula α} (h : Reads level ts φ)
    (outer : List (Group α)) (g : Group α) (ψ : Formula α) :
    ts.foldlM Reader.step ⟨outer, g, some ψ⟩ = none := by
  induction h with
  | atom | group | not => rfl
  | factor _ ih => exact ih
  | conjunction _ ih => exact ih
  | and _ _ ih _ | or _ _ ih _ =>
    rw [List.foldlM_append, ih]
    rfl

end Reads

/-- A group may lose its parentheses: a factor anywhere, a conjunction wherever no `not` stands in
front of it. The lexemes read with them and without them, up to regrouping, or not at all. -/
theorem Reads.ungroup {level : Level} {ts : List (Lexeme α)} {φ : Formula α} (h : Reads level ts φ)
    {before after : List (Lexeme α)}
    (place : level = .factor ∨ level = .conjunction ∧ before.getLast? ≠ some .not) :
    Option.Rel Formula.Regroups (read (before ++ (ts ++ after)))
      (read (before ++ ((.lparen :: ts ++ [.rparen]) ++ after))) := by
  have group := Reads.group h.toDisjunction
  -- In front of the group the two readers are the same, behind it they agree.
  have agree (r : Reader α) (hr : before.foldlM Reader.step ⟨[], .start, none⟩ = some r) :
      Option.Rel Reader.Regroups (ts.foldlM Reader.step r)
        ((Lexeme.lparen :: ts ++ [Lexeme.rparen]).foldlM Reader.step r) := by
    obtain ⟨outer, ⟨d, c, n⟩, operand⟩ := r
    cases operand with
    | some ψ =>
      rw [h.stuck, group.stuck]
      exact .none
    | none =>
      have around : List.Forall₂ Group.Regroups outer outer :=
        List.forall₂_same.2 fun g _ => .refl g
      rw [group.takes outer d c n]
      rcases place with rfl | ⟨rfl, negated⟩
      · rw [h.takes outer d c n]
        exact .some (.operand around (rel_regroups_refl d) (.refl _))
      · obtain rfl : n = 0 := Reader.negations_of_run hr negated
        obtain ⟨c', ψ, read, same⟩ := takes_conjunction outer d c h
        rw [read]
        exact .some (.operand around (rel_regroups_refl d) same)
  have same (r : Reader α) (hr : before.foldlM Reader.step ⟨[], .start, none⟩ = some r) :
      Option.Rel Reader.Regroups ((ts ++ after).foldlM Reader.step r)
        (((Lexeme.lparen :: ts ++ [Lexeme.rparen]) ++ after).foldlM Reader.step r) := by
    rw [List.foldlM_append, List.foldlM_append]
    exact rel_bind (agree r hr) fun _ _ same => same.run after
  unfold read
  rw [List.foldlM_append, List.foldlM_append]
  cases hr : before.foldlM Reader.step (⟨[], .start, none⟩ : Reader α) with
  | none => exact .none
  | some r => exact rel_bind (same r hr) fun _ _ same => same.formula?

end SqlBuilder.Sql
