import SqlBuilder.Error
import SqlBuilder.Fragment

/-!
# Templates

A template is SQL text cut at its slots, with one argument per slot. In template text a
question mark is a slot and a doubled one stands for itself, read from left to right.
-/

namespace SqlBuilder

/-- SQL text around slots, and the arguments bound so far. -/
structure Template (α : Type) where
  parts : List String
  args : List α

namespace Template

variable {α : Type}

/-- Puts a character in front of the first part. -/
def pushFront (c : Char) : List (List Char) → List (List Char)
  | [] => [[c]]
  | part :: parts => (c :: part) :: parts

/-- The parts of a text between its slots. -/
def splitSlots : List Char → List (List Char)
  | [] => [[]]
  | '?' :: '?' :: rest => pushFront '?' (splitSlots rest)
  | '?' :: rest => [] :: splitSlots rest
  | c :: rest => pushFront c (splitSlots rest)

/-- The template of a text, nothing bound. -/
def parse (text : String) : Template α :=
  ⟨(splitSlots text.toList).map String.ofList, []⟩

/-- Binds one more argument. -/
def bind (t : Template α) (arg : α) : Template α := { t with args := t.args ++ [arg] }

/-- Binds several more arguments. -/
def bindAll (t : Template α) (args : List α) : Template α := { t with args := t.args ++ args }

/-- The number of slots. -/
def slots (t : Template α) : Nat := t.parts.length - 1

/-- The parts with the fragments in the slots between them. -/
def weave : List String → List Fragment → List Fragment
  | [], _ => []
  | part :: parts, [] => Fragment.ofSql part :: weave parts []
  | part :: parts, f :: fs => Fragment.ofSql part :: f :: weave parts fs

/-- The fragment of a template whose arguments are written by `operand`. -/
def render (operand : α → Except Error Fragment) (t : Template α) : Except Error Fragment :=
  if t.parts.length = t.args.length + 1 then
    (t.args.mapM operand).map fun fs => Fragment.concat (weave t.parts fs)
  else .error (.arity (.slots t.slots t.args.length))

end Template

end SqlBuilder
