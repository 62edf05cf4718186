import SqlBuilder.Number.Binary
import SqlBuilder.Record

/-!
# JSON values

A JSON value keeps the order of its object members. Integers of the signed and unsigned 64-bit
ranges are exact, every other number is a 64-bit floating-point word. Equality takes the order
of members as immaterial and tells an integer from a floating-point number.
-/

namespace SqlBuilder

open Number

/-- A JSON value. -/
inductive Json
  | null
  | bool (b : Bool)
  /-- An integer from `-2 ^ 63` to `2 ^ 64 - 1`. -/
  | int (n : Int)
  /-- A finite floating-point number. -/
  | float (x : Binary64)
  | string (s : String)
  | array (items : List Json)
  | object (members : Record Json)

namespace Json

instance : Inhabited Json := ⟨.null⟩

mutual

/-- Equality of JSON values. -/
protected def beq : Json → Json → Bool
  | .null, .null => true
  | .bool a, .bool b => a == b
  | .int a, .int b => a == b
  | .float a, .float b => a == b
  | .string a, .string b => a == b
  | .array xs, .array ys => beqItems xs ys
  | .object ⟨ms⟩, .object ns => ms.length == ns.size && beqMembers ms ns
  | _, _ => false
  termination_by structural j => j

/-- Equality of array items, one by one. -/
def beqItems : List Json → List Json → Bool
  | [], [] => true
  | x :: xs, y :: ys => Json.beq x y && beqItems xs ys
  | _, _ => false
  termination_by structural xs => xs

/-- Every member of the list has an equal counterpart in the object. -/
def beqMembers : List (String × Json) → Record Json → Bool
  | [], _ => true
  | (key, value) :: rest, members =>
    (match members.get? key with
      | some other => Json.beq value other
      | none => false) && beqMembers rest members
  termination_by structural ms => ms

end

instance : BEq Json := ⟨Json.beq⟩

/-- The number nearest to a floating-point result; what JSON has no number for is null. -/
def ofFloat (x : Binary64) : Json := if x.isFinite then .float x else .null

end Json

end SqlBuilder
