import SqlBuilder.Json.Basic
import SqlBuilder.Text.Digits

/-!
# Reading JSON numbers

A number without fraction and exponent is an integer when it lies in the signed or unsigned
64-bit range. Every other number becomes a floating-point word in two rounded steps: a
significand takes in the leading digits as long as it stays below `2 ^ 64`, and the nearest
power of ten multiplies or divides it once. Integer digits that no longer fit count into the
exponent, fraction digits that no longer fit are dropped, and a result beyond the largest
finite word is refused.
-/

namespace SqlBuilder.Json

open Number Text

/-- The significand after taking in digits while it fits, and how many digits were left. -/
def absorb (significand : Nat) : List Char → Nat × Nat
  | [] => (significand, 0)
  | d :: rest =>
    let next := 10 * significand + digitValue d
    if next < wordLimit then absorb next rest else (significand, rest.length + 1)

/-- The word nearest to a power of ten. -/
def powerOfTen (k : Nat) : Binary64 := Binary64.nearest false (Nat.pow 10 k) 1

/-- Multiplies a magnitude by a power of ten; `none` when the result is not finite. -/
def scale (x : Binary64) (exponent : Int) : Option Binary64 :=
  if x.isZero then some x
  else if 308 < exponent then none
  else if 0 ≤ exponent then
    let product := x.mulMagnitude (powerOfTen exponent.toNat)
    if product.isFinite then some product else none
  else if -308 ≤ exponent then some (x.divMagnitude (powerOfTen (-exponent).toNat))
  else scale (x.divMagnitude (powerOfTen 308)) (exponent + 308)
  termination_by exponent.natAbs

/-- The number with the given significand digits, decimal exponent and sign. -/
def floatOfParts (negative : Bool) (significand : Nat) (exponent : Int) : Option Json :=
  (scale (Binary64.ofInt significand) exponent).map fun x =>
    .float (if negative then x.neg else x)

/-- An integer literal whose digits all fit in 64 bits. -/
def ofSignificand (negative : Bool) (significand : Nat) : Json :=
  if negative then
    if significand = 0 then .float (Binary64.ofInt 0).neg
    else if significand ≤ Nat.pow 2 63 then .int (-significand)
    else .float (Binary64.ofInt (-significand))
  else .int significand

/-- Splits an exponent part off: the sign and the digits after `e`. -/
def exponentOfText? : List Char → Option Int
  | [] => some 0
  | mark :: rest =>
    if mark = 'e' || mark = 'E' then
      let (negative, digits) := match rest with
        | '-' :: ds => (true, ds)
        | '+' :: ds => (false, ds)
        | ds => (false, ds)
      if digits.isEmpty || !digits.all isDigit then none
      else some (if negative then -(digitsValue digits : Int) else digitsValue digits)
    else none

/-- Reads the text of a number. -/
def number? (text : List Char) : Option Json :=
  let (negative, rest) := match text with
    | '-' :: r => (true, r)
    | r => (false, r)
  let whole := rest.takeWhile isDigit
  let rest := rest.dropWhile isDigit
  if whole.isEmpty || (whole.head? == some '0' && whole.length != 1) then none
  else
    let (significand, left) := absorb 0 whole
    match rest with
    | [] =>
      if left = 0 then some (ofSignificand negative significand)
      else floatOfParts negative significand left
    | '.' :: after =>
      let fraction := after.takeWhile isDigit
      if fraction.isEmpty then none
      else
        let (longer, dropped) := absorb significand fraction
        match exponentOfText? (after.dropWhile isDigit) with
        | none => none
        | some e => floatOfParts negative longer (left - (fraction.length - dropped : Nat) + e)
    | rest =>
      match exponentOfText? rest with
      | none => none
      | some e => floatOfParts negative significand (left + e)

end SqlBuilder.Json
