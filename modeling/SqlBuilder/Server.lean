import SqlBuilder.Execute
import SqlBuilder.Text.Digits
import SqlBuilder.Wire.Encode

/-!
# Servers

A `Server` is a script of one exchange in the extended query protocol: it infers parameter types
from the text, takes the encoded parameters, and answers with rows and a command tag, or fails
while it parses or executes. It is a backend like any other (`Server.backend`).
-/

namespace SqlBuilder

/-- The point at which a server fails. -/
inductive Stage
  | parse
  | execute
  deriving DecidableEq

/-- What a server answers to any statement. -/
structure Server where
  paramTypes : List SqlType
  rows : List Row
  tag : String
  failure : Option (Stage × DatabaseError)

/-- What a server has received: the text, and the parameters unless it refused the text. -/
structure Receipt where
  sql : String
  params : Option (List (Option (List UInt8)))

namespace Server

/-- The failure of the server at a stage. -/
def failureAt (server : Server) (stage : Stage) : Option Failure :=
  match server.failure with
  | some (failing, e) => if failing = stage then some (.reported e) else none
  | none => none

/-- Encodes a parameter for the type at its index. -/
def encodeParam (index : Nat) (type : SqlType) (value : Value) :
    Except Failure (Option (List UInt8)) :=
  (value.encode type).mapError fun fault => .exchange (.parameter index fault)

/-- The encoded parameters of a statement. -/
def encodeParams (server : Server) (s : Statement) :
    Except Failure (List (Option (List UInt8))) :=
  if s.args.length ≠ server.paramTypes.length then
    .error (.exchange (.parameterCount server.paramTypes.length s.args.length))
  else
    (s.args.zip server.paramTypes).zipIdx.mapM fun ((value, type), index) =>
      encodeParam index type value

/-- What the server receives of a statement, and whether it can answer. -/
def exchange (server : Server) (s : Statement) : Option Receipt × Except Failure Unit :=
  match server.failureAt .parse with
  | some e => (some ⟨s.text, none⟩, .error e)
  | none =>
    match server.encodeParams s with
    | .error e => (none, .error e)
    | .ok params =>
      (some ⟨s.text, some params⟩,
        match server.failureAt .execute with
        | some e => .error e
        | none => .ok ())

/-- The number at the end of a command tag; zero if there is none. -/
def affected (tag : String) : Nat :=
  let word := (tag.toList.reverse.takeWhile (· ≠ ' ')).reverse
  let digits := match word with
    | '+' :: rest => rest
    | _ => word
  let n := Text.digitsValue digits
  if digits.isEmpty || !digits.all Text.isDigit || Text.wordLimit ≤ n then 0 else n

/-- What the server answers. -/
def backend (server : Server) : Backend where
  rows text args := (server.exchange ⟨text, args⟩).2.map fun _ => server.rows
  affected text args := (server.exchange ⟨text, args⟩).2.map fun _ => affected server.tag

/-- The client of a server. -/
def client (server : Server) : Client := server.backend.client

end Server

end SqlBuilder
