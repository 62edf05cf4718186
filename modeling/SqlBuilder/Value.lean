import SqlBuilder.Calendar
import SqlBuilder.Json.Printer
import SqlBuilder.Uuid

/-!
# Parameter values

A `Value` is the payload of one positional parameter. Values are never written into SQL text.
`Value.toJson` is the plain JSON form in which values are shown, without a tag for their kind.
-/

namespace SqlBuilder

open Number

/-- The payload of a parameter. -/
inductive Value
  | null
  | bool (b : Bool)
  | int (n : Int64)
  | float (x : Binary64)
  | text (s : String)
  | json (j : Json)
  | uuid (u : Uuid)
  | timestamp (t : Instant)
  | bytes (b : List UInt8)

namespace Value

instance : Inhabited Value := ⟨.null⟩

/-- Equality of values: floats compare as numbers and JSON objects without regard to order. -/
protected def beq : Value → Value → Bool
  | .null, .null => true
  | .bool a, .bool b => a == b
  | .int a, .int b => a == b
  | .float a, .float b => a == b
  | .text a, .text b => a == b
  | .json a, .json b => a == b
  | .uuid a, .uuid b => a == b
  | .timestamp a, .timestamp b => a == b
  | .bytes a, .bytes b => a == b
  | _, _ => false

instance : BEq Value := ⟨Value.beq⟩

/-- Whether the value is SQL NULL. -/
def isNull : Value → Bool
  | .null => true
  | _ => false

/-- The kind of the value in messages. -/
def kindName : Value → String
  | .null => "null"
  | .bool _ => "bool"
  | .int _ => "integer"
  | .float _ => "float"
  | .text _ => "text"
  | .json _ => "json"
  | .uuid _ => "uuid"
  | .timestamp _ => "timestamp"
  | .bytes _ => "bytes"

/-- The value as plain JSON: UUIDs and timestamps as text, bytes as an array of numbers. -/
def toJson : Value → Json
  | .null => .null
  | .bool b => .bool b
  | .int n => .int n.toInt
  | .float x => Json.ofFloat x
  | .text s => .string s
  | .json j => j
  | .uuid u => .string u.toText
  | .timestamp t => .string (t.toText ++ "Z")
  | .bytes b => .array (b.map fun byte => .int byte.toNat)

/-- The value that stands for a JSON value: integers of the signed 64-bit range, texts and the
three words become values of their own kind, larger integers become floats, and arrays and
objects stay JSON. -/
def ofJson : Json → Value
  | .null => .null
  | .bool b => .bool b
  | .int n =>
    if Int64.minValue.toInt ≤ n ∧ n ≤ Int64.maxValue.toInt then .int (Int64.ofInt n)
    else .float (Binary64.ofInt n)
  | .float x => .float x
  | .string s => .text s
  | j => .json j

end Value

end SqlBuilder
