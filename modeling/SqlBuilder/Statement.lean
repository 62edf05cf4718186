import SqlBuilder.Error
import SqlBuilder.Fragment
import SqlBuilder.Sql.Token
import SqlBuilder.Text.Digits

/-!
# Compiled statements

A `Statement` is SQL text with numbered placeholders and its arguments. `Fragment.toStatement`
numbers the parameters of a fragment, and `Statement.toFragment` reads the placeholders of a
statement back, so that a compiled statement can become part of another one.
-/

namespace SqlBuilder

/-- SQL text and its positional arguments. -/
structure Statement where
  text : String
  args : List Value

instance : Inhabited Statement := ⟨⟨"", []⟩⟩

/-- The statement that a fragment stands for, placeholders numbered from `$1`. -/
def Fragment.toStatement (f : Fragment) : Statement := ⟨f.toSql, f.args⟩

namespace Statement

/-- The argument of a placeholder with the given digits. -/
def argument (args : Array Value) (digits : List Char) : Except Error Value :=
  let index := Text.digitsValue digits
  if Text.wordLimit ≤ index then .error (.arity (.placeholderRange (String.ofList digits)))
  else
    match index with
    | 0 => .error (.arity (.placeholder 0 args.size))
    | n + 1 =>
      match args[n]? with
      | some v => .ok v
      | none => .error (.arity (.placeholder (n + 1) args.size))

/-- The piece that a token of the text stands for. -/
def piece (args : Array Value) : Sql.Token → Except Error Piece
  | .text run => .ok (.text (String.ofList run))
  | .placeholder digits => (argument args digits).map .param

/-- The fragment of a statement: each placeholder becomes its argument. -/
def toFragment (s : Statement) : Except Error Fragment :=
  ((Sql.tokens s.text).mapM (piece s.args.toArray)).map Fragment.ofPieces

/-- The JSON form of a statement. -/
def toJson (s : Statement) : Json :=
  .object ⟨[("text", .string s.text), ("args", .array (s.args.map Value.toJson))]⟩

end Statement

end SqlBuilder
