import SqlBuilder.Number.Binary

/-!
# Shortest decimals

`shortest` gives the decimal with the fewest digits that reads back as a given finite word,
and of those the nearest one, an exact tie going to the even digit. A word is read back from
every number of its rounding interval, which reaches half way to its two neighbours and
includes its ends when the significand is even. For each digit count the only candidates are
the two neighbours of the word on that decimal grid.
-/

namespace SqlBuilder.Number

/-- A positive decimal `digits * 10 ^ exponent`. -/
structure Decimal where
  digits : Nat
  exponent : Int
  deriving DecidableEq

/-- `num / den * 10 ^ exponent` as a quotient of naturals. -/
def scaleTen (num den : Nat) (exponent : Int) : Nat × Nat :=
  if exponent < 0 then (num, den * Nat.pow 10 (-exponent).toNat)
  else (num * Nat.pow 10 exponent.toNat, den)

/-- The numbers that round to `significand * 2 ^ exponent`: the bounds are
`low * 2 ^ (exponent - 2)` and `high * 2 ^ (exponent - 2)`. -/
structure Interval where
  low : Nat
  high : Nat
  /-- Both ends belong to the interval. -/
  closed : Bool

/-- The rounding interval of a significand; below a power of two the gap is half as wide. -/
def Format.interval (f : Format) (significand : Nat) (exponent : Int) : Interval where
  low :=
    if significand = f.leadingBit && decide (f.minExponent < exponent) then 4 * significand - 1
    else 4 * significand - 2
  high := 4 * significand + 2
  closed := significand % 2 == 0

/-- Whether the decimal lies in the interval around words of the given binary exponent. -/
def Interval.contains (i : Interval) (exponent : Int) (d : Decimal) : Bool :=
  let (unitNum, unitDen) := quotientOf 1 (exponent - 2)
  let (num, den) := scaleTen d.digits 1 d.exponent
  if i.closed then
    decide (i.low * unitNum * den ≤ num * unitDen) && decide (num * unitDen ≤ i.high * unitNum * den)
  else
    decide (i.low * unitNum * den < num * unitDen) && decide (num * unitDen < i.high * unitNum * den)

/-- The power of ten at or below a positive quotient. -/
def log10 (num den : Nat) : Int :=
  let guess := ((num.log2 : Int) - den.log2) * 30103 / 100000
  let atLeast (k : Int) : Bool :=
    let (n, d) := scaleTen 1 1 k
    decide (n * den ≤ num * d)
  if !atLeast guess then guess - 1
  else if atLeast (guess + 1) then guess + 1
  else guess

/-- The neighbour of `num / den` on the grid of multiples of `10 ^ exponent` that reads back,
the nearer one if both do. -/
def onGrid (i : Interval) (binaryExponent : Int) (num den : Nat) (exponent : Int) :
    Option Decimal :=
  let (n, d) := scaleTen num den (-exponent)
  let below : Decimal := ⟨n / d, exponent⟩
  let above : Decimal := ⟨n / d + 1, exponent⟩
  let near : Decimal := ⟨roundQuotient n d, exponent⟩
  match i.contains binaryExponent below, i.contains binaryExponent above with
  | true, true => some near
  | true, false => some below
  | false, true => some above
  | false, false => none

/-- Trailing zeros move into the exponent. -/
def Decimal.trim : Nat → Decimal → Decimal
  | 0, d => d
  | n + 1, d =>
    if d.digits % 10 = 0 && d.digits != 0 then trim n ⟨d.digits / 10, d.exponent + 1⟩ else d

/-- The decimal of fewest digits, at most seventeen, that reads back as
`significand * 2 ^ exponent`. -/
def shortest (f : Format) (significand : Nat) (exponent : Int) : Decimal :=
  let interval := f.interval significand exponent
  let (num, den) := quotientOf significand exponent
  let top := log10 num den
  let found := (List.range 17).findSome? fun (n : Nat) =>
    onGrid interval exponent num den (top - (n : Int))
  let (n, d) := scaleTen num den (16 - top)
  (found.getD ⟨roundQuotient n d, top - 16⟩).trim 20

end SqlBuilder.Number
