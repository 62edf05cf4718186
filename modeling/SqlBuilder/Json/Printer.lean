import SqlBuilder.Json.Basic
import SqlBuilder.Number.Shortest
import SqlBuilder.Text.Hex

/-!
# Compact JSON text

`Json.compact` writes a value without blanks. Strings escape the quotation mark, the backslash
and the control characters only. A floating-point number is written with the fewest digits that
read back: positionally when its decimal exponent lies between -5 and 15, otherwise with a
signed exponent, and always with a fraction when written positionally.
-/

namespace SqlBuilder.Json

open Number Text

/-- The escape of one character inside a string. -/
def escape (c : Char) : List Char :=
  if c = '"' then ['\\', '"']
  else if c = '\\' then ['\\', '\\']
  else if c = '\x08' then ['\\', 'b']
  else if c = '\x0c' then ['\\', 'f']
  else if c = '\n' then ['\\', 'n']
  else if c = '\r' then ['\\', 'r']
  else if c = '\t' then ['\\', 't']
  else if c.toNat < 32 then '\\' :: 'u' :: hexOfNat 4 c.toNat
  else [c]

/-- A string between quotation marks. -/
def quote (s : String) : String :=
  String.ofList ('"' :: s.toList.flatMap escape ++ ['"'])

/-- The magnitude of a decimal: its digits and the exponent of the first one decide the form. -/
def decimalText (d : Decimal) : String :=
  let digits := (Nat.repr d.digits).toList
  let count := digits.length
  let lead := d.exponent + (count - 1 : Nat)
  if lead < -5 || 15 < lead then
    let fraction := if count = 1 then [] else '.' :: digits.drop 1
    let mark := if lead < 0 then ['e', '-'] else ['e', '+']
    String.ofList (digits.take 1 ++ fraction ++ mark ++ (Nat.repr lead.natAbs).toList)
  else if lead < 0 then
    String.ofList ('0' :: '.' :: List.replicate (-lead - 1).toNat '0' ++ digits)
  else
    let whole := lead.toNat + 1
    if count ≤ whole then
      String.ofList (digits ++ List.replicate (whole - count) '0' ++ ['.', '0'])
    else
      String.ofList (digits.take whole ++ '.' :: digits.drop whole)

/-- The text of a floating-point number. -/
def floatText (x : Binary64) : String :=
  match x.datum with
  | .finite negative m e =>
    let magnitude := if m = 0 then "0.0" else decimalText (shortest .binary64 m e)
    if negative then "-" ++ magnitude else magnitude
  | _ => "null"

mutual

/-- The text of a value without blanks. -/
def compact : Json → String
  | .null => "null"
  | .bool b => if b then "true" else "false"
  | .int n => Int.repr n
  | .float x => floatText x
  | .string s => quote s
  | .array items => "[" ++ String.intercalate "," (compactItems items) ++ "]"
  | .object ⟨members⟩ => "\x7b" ++ String.intercalate "," (compactMembers members) ++ "\x7d"
  termination_by structural j => j

/-- The texts of array items. -/
def compactItems : List Json → List String
  | [] => []
  | item :: rest => compact item :: compactItems rest
  termination_by structural items => items

/-- The texts of object members. -/
def compactMembers : List (String × Json) → List String
  | [] => []
  | (key, value) :: rest => (quote key ++ ":" ++ compact value) :: compactMembers rest
  termination_by structural members => members

end

end SqlBuilder.Json
