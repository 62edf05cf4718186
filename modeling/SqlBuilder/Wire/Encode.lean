import SqlBuilder.Value
import SqlBuilder.Wire.Bytes
import SqlBuilder.Wire.Type

/-!
# Encoding parameters

`Value.write` appends the binary form of a value to a message. Integers take the width of the
parameter's type and are refused where they do not fit; every other value goes only to the types
that are made for it, and NULL goes to all of them.
-/

namespace SqlBuilder

open Number Wire

/-- Why a value cannot be a parameter of a type. -/
inductive EncodeFault
  | outOfRange (n : Int64) (type : SqlType)
  | unsupported (value : Value) (type : SqlType)

def EncodeFault.message : EncodeFault → String
  | .outOfRange n type => "integer " ++ Int.repr n.toInt ++ " out of range for " ++ type.toName
  | .unsupported value type => "cannot encode " ++ value.kindName ++ " as " ++ type.toName

/-- Whether a parameter has bytes. -/
inductive Presence
  | null
  | present
  deriving DecidableEq

/-- An action that appends to a message or fails. -/
abbrev Writer := ExceptT EncodeFault (StateM (List UInt8))

namespace Writer

/-- Appends bytes. -/
def bytes (b : List UInt8) : Writer Presence := do
  modify (· ++ b)
  return .present

/-- Appends an integer that fits the width. -/
def integer (width : Nat) (n : Int64) (type : SqlType) : Writer Presence :=
  if -(Nat.pow 256 width : Int) ≤ 2 * n.toInt ∧ 2 * n.toInt < Nat.pow 256 width then
    bytes (signedBigEndian width n.toInt)
  else throw (.outOfRange n type)

/-- Appends the word of a float. -/
def binary32 (x : Binary32) : Writer Presence := bytes (bigEndian 4 x.bits.toNat)

/-- Appends the word of a float. -/
def binary64 (x : Binary64) : Writer Presence := bytes (bigEndian 8 x.bits.toNat)

/-- Appends text, behind a version byte for the types that want one. -/
def text (s : String) (type : SqlType) : Writer Presence :=
  if type.isVersionedText then do
    let _ ← bytes [1]
    bytes (utf8 s)
  else bytes (utf8 s)

/-- Appends the microseconds of an instant. -/
def instant (t : Instant) : Writer Presence := bytes (signedBigEndian 8 t.microsSince2000)

end Writer

namespace Value

/-- Appends a value as a parameter of a type. -/
def write (type : SqlType) (value : Value) : Writer Presence :=
  match value, type with
  | .null, _ => return .null
  | .bool b, .bool => Writer.bytes [if b then 1 else 0]
  | .int n, .int2 => Writer.integer 2 n type
  | .int n, .int4 => Writer.integer 4 n type
  | .int n, .int8 => Writer.integer 8 n type
  | .int n, .float4 => Writer.binary32 (Binary32.ofInt n.toInt)
  | .int n, .float8 => Writer.binary64 (Binary64.ofInt n.toInt)
  | .int n, .text => Writer.text (Int.repr n.toInt) type
  | .int n, .varchar => Writer.text (Int.repr n.toInt) type
  | .float x, .float4 => Writer.binary32 x.narrow
  | .float x, .float8 => Writer.binary64 x
  | .json j, .json => Writer.bytes (utf8 j.compact)
  | .json j, .jsonb => do
    let _ ← Writer.bytes [1]
    Writer.bytes (utf8 j.compact)
  | .uuid u, .uuid => Writer.bytes u.toBytes
  | .timestamp t, .timestamptz => Writer.instant t
  | .timestamp t, .timestamp => Writer.instant t
  | .bytes b, .bytea => Writer.bytes b
  | .text s, _ =>
    if type.isPlainText || type.isVersionedText then Writer.text s type
    else throw (.unsupported value type)
  | _, _ => throw (.unsupported value type)

/-- The bytes of a value as a parameter of a type; `none` for NULL. -/
def encode (type : SqlType) (value : Value) : Except EncodeFault (Option (List UInt8)) :=
  match (value.write type).run [] with
  | (.ok .null, _) => .ok none
  | (.ok .present, message) => .ok (some message)
  | (.error fault, _) => .error fault

end Value

end SqlBuilder
