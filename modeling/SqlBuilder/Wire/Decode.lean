import SqlBuilder.Json.Parser
import SqlBuilder.Value
import SqlBuilder.Wire.Bytes
import SqlBuilder.Wire.Type

/-!
# Decoding cells

A `CellDecoder` reads cells of the column types that it accepts. Numbers have exactly the bytes of
their width, texts are well-formed UTF-8, and dates and timestamps lie in the representable years.
-/

namespace SqlBuilder

open Number Wire

/-- A reader of cells. -/
structure CellDecoder (α : Type) where
  accepts : SqlType → Bool
  decode : SqlType → List UInt8 → Option α

namespace CellDecoder

variable {α β : Type}

/-- The decoder of one type with a fixed number of bytes. -/
def fixed (type : SqlType) (width : Nat) (read : List UInt8 → Option α) : CellDecoder α where
  accepts := (· = type)
  decode _ bytes := if bytes.length = width then read bytes else none

/-- Changes what a decoder gives. -/
def map (f : α → β) (d : CellDecoder α) : CellDecoder β where
  accepts := d.accepts
  decode type bytes := (d.decode type bytes).map f

/-- A byte that is not zero is true. -/
def bool : CellDecoder Bool :=
  fixed .bool 1 fun bytes => some (bytes.any (· ≠ 0))

/-- Integers in two's complement. -/
def integer (type : SqlType) (width : Nat) : CellDecoder Int :=
  fixed type width fun bytes => some (ofSignedBigEndian bytes)

def int2 : CellDecoder Int := integer .int2 2

def int4 : CellDecoder Int := integer .int4 4

def int8 : CellDecoder Int := integer .int8 8

/-- Floats, the narrower ones widened. -/
def float4 : CellDecoder Binary64 :=
  fixed .float4 4 fun bytes => some (Binary32.widen ⟨UInt32.ofNat (ofBigEndian bytes)⟩)

def float8 : CellDecoder Binary64 :=
  fixed .float8 8 fun bytes => some ⟨UInt64.ofNat (ofBigEndian bytes)⟩

/-- Texts; some types have a version byte in front. -/
def text : CellDecoder String where
  accepts type := type.isPlainText || type.isVersionedText
  decode type bytes :=
    if type.isVersionedText then
      match bytes with
      | 1 :: rest => ofUtf8? rest
      | _ => none
    else ofUtf8? bytes

/-- JSON, which has a version byte in front in its binary form. -/
def json : CellDecoder Json where
  accepts type := type = .json || type = .jsonb
  decode type bytes :=
    if type = .jsonb then
      match bytes with
      | 1 :: rest => (ofUtf8? rest).bind Json.parse?
      | _ => none
    else (ofUtf8? bytes).bind Json.parse?

def uuid : CellDecoder Uuid := fixed .uuid 16 Uuid.ofBytes?

/-- Instants in microseconds from 2000-01-01. -/
def instant (type : SqlType) : CellDecoder Instant :=
  fixed type 8 fun bytes =>
    let t := Instant.ofMicrosSince2000 (ofSignedBigEndian bytes)
    if t.day.isRepresentable then some t else none

/-- Dates in days from 2000-01-01. -/
def date : CellDecoder Day :=
  fixed .date 4 fun bytes =>
    let d := Day.ofDaysSince2000 (ofSignedBigEndian bytes)
    if d.isRepresentable then some d else none

def bytes : CellDecoder (List UInt8) where
  accepts := (· = .bytea)
  decode _ b := some b

/-- The decoder that shows a cell of a column type as JSON, for the types that have one. -/
def toJson? : SqlType → Option (CellDecoder Json)
  | .bool => some (bool.map .bool)
  | .int2 => some (int2.map .int)
  | .int4 => some (int4.map .int)
  | .int8 => some (int8.map .int)
  | .float4 => some (float4.map Json.ofFloat)
  | .float8 => some (float8.map Json.ofFloat)
  | .text | .varchar | .bpchar | .name => some (text.map .string)
  | .json | .jsonb => some json
  | .uuid => some (uuid.map fun u => .string u.toText)
  | .timestamptz => some ((instant .timestamptz).map fun t => .string (t.toText ++ "+00:00"))
  | .timestamp => some ((instant .timestamp).map fun t => .string t.toText)
  | .date => some (date.map fun d => .string d.toText)
  | _ => none

end CellDecoder

end SqlBuilder
