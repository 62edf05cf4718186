/-!
# Binary interchange formats

A binary floating-point datum is a sign, a significand and a power of two packed into a word.
`Format` gives the widths, `Format.decode` reads a word, and `Format.magnitude` packs the
representable number nearest to a quotient of naturals, ties going to the even significand.
`Binary64` and `Binary32` are words of the two formats that databases exchange; everything
they do is exact arithmetic on naturals. Powers are `Nat.pow` by name, because which instance `^`
stands for depends on how much algebra is imported.
-/

namespace SqlBuilder.Number

/-- The quotient rounded to the nearest natural, a half going to the even neighbour. -/
def roundQuotient (num den : Nat) : Nat :=
  let q := num / den
  let r := num % den
  if 2 * r < den then q
  else if den < 2 * r then q + 1
  else q + q % 2

/-- The widths of a binary interchange format. -/
structure Format where
  /-- Bits of the significand, the leading one included. -/
  precision : Nat
  /-- Bits of the biased exponent. -/
  exponentBits : Nat

/-- What a word of a format stands for: a finite datum is `significand * 2 ^ exponent`. -/
inductive Datum
  | nan
  | infinite (negative : Bool)
  | finite (negative : Bool) (significand : Nat) (exponent : Int)

namespace Format

def binary32 : Format := ⟨24, 8⟩

def binary64 : Format := ⟨53, 11⟩

/-- Every finite datum is an integer multiple of two to this power. -/
def minExponent (f : Format) : Int :=
  3 - Nat.pow 2 (f.exponentBits - 1) - f.precision

/-- The step between significands of successive exponents. -/
def leadingBit (f : Format) : Nat := Nat.pow 2 (f.precision - 1)

/-- The word of positive infinity. -/
def infinity (f : Format) : Nat := (Nat.pow 2 f.exponentBits - 1) * f.leadingBit

/-- The bit that marks negative words. -/
def signBit (f : Format) : Nat := Nat.pow 2 f.exponentBits * f.leadingBit

/-- Reads a word. -/
def decode (f : Format) (word : Nat) : Datum :=
  let negative := decide (f.signBit ≤ word)
  let body := word % f.signBit
  let exponent := body / f.leadingBit
  let fraction := body % f.leadingBit
  if f.infinity < body then .nan
  else if body = f.infinity then .infinite negative
  else if exponent = 0 then .finite negative fraction f.minExponent
  else .finite negative (f.leadingBit + fraction) (f.minExponent + (exponent - 1 : Nat))

/-- `num / (den * 2 ^ exponent)` as a quotient of naturals. -/
def scaled (num den : Nat) (exponent : Int) : Nat × Nat :=
  if exponent < 0 then (num * Nat.pow 2 (-exponent).toNat, den)
  else (num, den * Nat.pow 2 exponent.toNat)

/-- The exponent at which `num / den` has a full significand, or the least one; zero never has a
full significand. -/
def exponentOf (f : Format) (num den : Nat) : Int :=
  if num = 0 then f.minExponent
  else
    let low := max ((num.log2 : Int) - den.log2 - f.precision) f.minExponent
    let (n, d) := scaled num den low
    if 2 * f.leadingBit * d ≤ n then low + 1 else low

/-- The unsigned word nearest to `num / den`; what lies beyond the largest finite datum
becomes infinity. -/
def magnitude (f : Format) (num den : Nat) : Nat :=
  let exponent := f.exponentOf num den
  let (n, d) := scaled num den exponent
  min ((exponent - f.minExponent).toNat * f.leadingBit + roundQuotient n d) f.infinity

/-- The word nearest to `num / den` under a sign. -/
def nearest (f : Format) (negative : Bool) (num den : Nat) : Nat :=
  (if negative then f.signBit else 0) + f.magnitude num den

end Format

/-- A finite magnitude as a quotient of naturals. -/
def quotientOf (significand : Nat) (exponent : Int) : Nat × Nat :=
  if exponent < 0 then (significand, Nat.pow 2 (-exponent).toNat)
  else (significand * Nat.pow 2 exponent.toNat, 1)

/-- A word of the 64-bit format. -/
structure Binary64 where
  bits : UInt64
  deriving DecidableEq, Inhabited

/-- A word of the 32-bit format. -/
structure Binary32 where
  bits : UInt32
  deriving DecidableEq, Inhabited

namespace Binary64

/-- What the word stands for. -/
def datum (x : Binary64) : Datum := Format.binary64.decode x.bits.toNat

/-- The word nearest to a signed quotient. -/
def nearest (negative : Bool) (num den : Nat) : Binary64 :=
  ⟨UInt64.ofNat (Format.binary64.nearest negative num den)⟩

/-- The word nearest to an integer. -/
def ofInt (n : Int) : Binary64 := nearest (decide (n < 0)) n.natAbs 1

/-- Numeric equality: the two zeros agree and no NaN equals anything. -/
protected def beq (x y : Binary64) : Bool :=
  match x.datum, y.datum with
  | .nan, _ => false
  | _, .nan => false
  | .finite _ 0 _, .finite _ 0 _ => true
  | _, _ => x.bits == y.bits

instance : BEq Binary64 := ⟨Binary64.beq⟩

/-- Whether the word is neither infinite nor a NaN. -/
def isFinite (x : Binary64) : Bool :=
  match x.datum with
  | .finite .. => true
  | _ => false

/-- Whether the word is one of the two zeros. -/
def isZero (x : Binary64) : Bool :=
  match x.datum with
  | .finite _ 0 _ => true
  | _ => false

/-- The same magnitude under the opposite sign. -/
def neg (x : Binary64) : Binary64 := ⟨x.bits ^^^ 0x8000000000000000⟩

/-- The magnitude as a quotient; anything not finite counts as zero. -/
def quotient (x : Binary64) : Nat × Nat :=
  match x.datum with
  | .finite _ m e => quotientOf m e
  | _ => (0, 1)

/-- The rounded product of two finite magnitudes. -/
def mulMagnitude (x y : Binary64) : Binary64 :=
  let (a, b) := x.quotient
  let (c, d) := y.quotient
  nearest false (a * c) (b * d)

/-- The rounded quotient of two finite magnitudes, the second one not zero. -/
def divMagnitude (x y : Binary64) : Binary64 :=
  let (a, b) := x.quotient
  let (c, d) := y.quotient
  nearest false (a * d) (b * c)

/-- The nearest word of the 32-bit format; a NaN keeps its sign and leading payload bits and
becomes quiet. -/
def narrow (x : Binary64) : Binary32 :=
  match x.datum with
  | .nan =>
    let sign := (x.bits >>> 63 <<< 31).toUInt32
    let payload := (x.bits >>> 29).toUInt32 &&& 0x003fffff
    ⟨sign ||| 0x7fc00000 ||| payload⟩
  | .infinite negative =>
    ⟨UInt32.ofNat ((if negative then Format.binary32.signBit else 0) + Format.binary32.infinity)⟩
  | .finite negative m e =>
    let (num, den) := quotientOf m e
    ⟨UInt32.ofNat (Format.binary32.nearest negative num den)⟩

end Binary64

namespace Binary32

/-- What the word stands for. -/
def datum (x : Binary32) : Datum := Format.binary32.decode x.bits.toNat

/-- The word nearest to an integer. -/
def ofInt (n : Int) : Binary32 :=
  ⟨UInt32.ofNat (Format.binary32.nearest (decide (n < 0)) n.natAbs 1)⟩

/-- The same number in the 64-bit format; a NaN keeps its sign and payload and becomes quiet. -/
def widen (x : Binary32) : Binary64 :=
  match x.datum with
  | .nan =>
    let sign := (x.bits >>> 31).toUInt64 <<< 63
    let payload := (x.bits &&& 0x003fffff).toUInt64 <<< 29
    ⟨sign ||| 0x7ff8000000000000 ||| payload⟩
  | .infinite negative =>
    ⟨UInt64.ofNat ((if negative then Format.binary64.signBit else 0) + Format.binary64.infinity)⟩
  | .finite negative m e =>
    let (num, den) := quotientOf m e
    Binary64.nearest negative num den

end Binary32

end SqlBuilder.Number
