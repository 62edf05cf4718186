import SqlBuilder.Fragment

/-!
# Conditions

A condition is a tree of comparisons and Boolean operators. A `leaf` is a comparison that the
library wrote; an `expr` is SQL from the caller, whose operators are unknown. `Condition.render`
writes the tree with parentheses around a child wherever its operator differs from its parent's,
around every `not`, around every `expr` under an operator, and around a `leaf` under `or`.
-/

namespace SqlBuilder

/-- A Boolean combination of comparisons. -/
inductive Condition
  | leaf (f : Fragment)
  | expr (f : Fragment)
  | not (inner : Condition)
  | and (left right : Condition)
  | or (left right : Condition)

/-- The Boolean operators. -/
inductive Connective
  | not
  | and
  | or
  deriving DecidableEq

namespace Condition

/-- Whether the condition stands in parentheses under an operator. -/
def needsParens (parent : Connective) : Condition → Bool
  | .leaf _ => parent == .or
  | .expr _ => true
  | .not _ => true
  | .and .. => parent != .and
  | .or .. => parent != .or

/-- Puts parts, given by what they put in front of other parts, between parentheses on demand. -/
@[inline]
def enclose (parens : Bool) (parts : List Fragment → List Fragment) (after : List Fragment) :
    List Fragment :=
  if parens then Fragment.ofSql "(" :: parts (Fragment.ofSql ")" :: after) else parts after

/-- Puts the parts of a condition in front of other parts. -/
def parts : Condition → (after : List Fragment) → List Fragment
  | .leaf f, after => f :: after
  | .expr f, after => f :: after
  | .not inner, after =>
    Fragment.ofSql "not " :: enclose (inner.needsParens .not) inner.parts after
  | .and left right, after =>
    enclose (left.needsParens .and) left.parts
      (Fragment.ofSql " and " :: enclose (right.needsParens .and) right.parts after)
  | .or left right, after =>
    enclose (left.needsParens .or) left.parts
      (Fragment.ofSql " or " :: enclose (right.needsParens .or) right.parts after)

theorem enclose_append (parens : Bool) {parts : List Fragment → List Fragment}
    (h : ∀ after more, parts (after ++ more) = parts after ++ more) (after more : List Fragment) :
    enclose parens parts (after ++ more) = enclose parens parts after ++ more := by
  cases parens with
  | false => exact h after more
  | true =>
    simp only [enclose, if_true, List.cons_append]
    rw [← h]
    rfl

theorem parts_append (c : Condition) (after more : List Fragment) :
    c.parts (after ++ more) = c.parts after ++ more := by
  induction c generalizing after more with
  | leaf f => rfl
  | expr f => rfl
  | not inner ih => simp only [parts, enclose_append _ ih, List.cons_append]
  | and left right ihLeft ihRight | or left right ihLeft ihRight =>
    simp only [parts, enclose_append _ ihRight, ← enclose_append _ ihLeft, List.cons_append]

/-- The text of a condition. -/
def render (c : Condition) : Fragment := Fragment.concat (c.parts [])

/-- The conditions combined from left to right; `none` if there are none. -/
def combine (op : Condition → Condition → Condition) : List Condition → Option Condition
  | [] => none
  | c :: rest => some (rest.foldl op c)

/-- All conditions hold. -/
def conjoin : List Condition → Option Condition := combine .and

/-- Some condition holds. -/
def disjoin : List Condition → Option Condition := combine .or

end Condition

end SqlBuilder
