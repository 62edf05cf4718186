/-!
# Decimal digits

The number that a run of decimal digits stands for, and numbers padded with zeros.
-/

namespace SqlBuilder.Text

/-- Whether the character is a decimal digit. -/
def isDigit (c : Char) : Bool := '0' ≤ c && c ≤ '9'

/-- The number that a decimal digit stands for. -/
def digitValue (c : Char) : Nat := c.toNat - 48

/-- The number that a run of digits stands for. -/
def digitsValue (digits : List Char) : Nat :=
  digits.foldl (fun n d => 10 * n + digitValue d) 0

/-- The least number that does not fit into a word of 64 bits. -/
def wordLimit : Nat := Nat.pow 2 64

/-- A number with at least `width` digits. -/
def zeroPadded (width n : Nat) : String :=
  let digits := (Nat.repr n).toList
  String.ofList (List.replicate (width - digits.length) '0' ++ digits)

end SqlBuilder.Text
