/-!
# Column and parameter types

The database types that values are encoded to and cells are decoded from. Types that the
library treats alike are known by their name only; an extension type never equals a built-in
type of the same name.
-/

namespace SqlBuilder

/-- A database type. -/
inductive SqlType
  | bool
  | int2
  | int4
  | int8
  | float4
  | float8
  | text
  | varchar
  | bpchar
  | name
  | unknown
  | json
  | jsonb
  | uuid
  | timestamptz
  | timestamp
  | date
  | bytea
  /-- Any other built-in type. -/
  | builtin (name : String)
  /-- A type that an extension or a user has added. -/
  | extension (name : String)
  deriving DecidableEq

namespace SqlType

/-- The built-in types that have a constructor of their own. -/
def known : List (String × SqlType) :=
  [("bool", .bool), ("int2", .int2), ("int4", .int4), ("int8", .int8), ("float4", .float4),
   ("float8", .float8), ("text", .text), ("varchar", .varchar), ("bpchar", .bpchar),
   ("name", .name), ("unknown", .unknown), ("json", .json), ("jsonb", .jsonb), ("uuid", .uuid),
   ("timestamptz", .timestamptz), ("timestamp", .timestamp), ("date", .date), ("bytea", .bytea)]

/-- The built-in type of a name. -/
def ofName (name : String) : SqlType := (known.lookup name).getD (.builtin name)

/-- The name of a type. -/
def toName : SqlType → String
  | .bool => "bool"
  | .int2 => "int2"
  | .int4 => "int4"
  | .int8 => "int8"
  | .float4 => "float4"
  | .float8 => "float8"
  | .text => "text"
  | .varchar => "varchar"
  | .bpchar => "bpchar"
  | .name => "name"
  | .unknown => "unknown"
  | .json => "json"
  | .jsonb => "jsonb"
  | .uuid => "uuid"
  | .timestamptz => "timestamptz"
  | .timestamp => "timestamp"
  | .date => "date"
  | .bytea => "bytea"
  | .builtin typeName => typeName
  | .extension typeName => typeName

/-- Types whose binary form is the text itself. -/
def isPlainText : SqlType → Bool
  | .text | .varchar | .bpchar | .name | .unknown => true
  | .extension typeName => typeName == "citext"
  | _ => false

/-- Extension types whose binary form is a version byte and then the text. -/
def isVersionedText : SqlType → Bool
  | .extension typeName => ["ltree", "lquery", "ltxtquery"].contains typeName
  | _ => false

end SqlType

end SqlBuilder
