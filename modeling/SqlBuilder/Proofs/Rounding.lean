import SqlBuilder.Json.Basic

/-!
# Integers beyond the signed range

The double nearest to an integer from `2 ^ 63` to `2 ^ 64 - 1`. There the doubles are the multiples
of 2048, so the integer is replaced by the nearest of them (`Binary64.quotient_ofInt`), and two
integers become the same double exactly if the same multiple is nearest to both
(`Binary64.ofInt_eq_iff`).
-/

namespace SqlBuilder.Number

/-- An integer that is beyond the signed range and within the unsigned one. -/
structure Large (n : Int) : Prop where
  low : 9223372036854775808 ≤ n
  high : n ≤ 18446744073709551615

/-- The multiple of 2048 nearest to an integer, in units of 2048. -/
def nearest2048 (n : Int) : Nat := roundQuotient n.toNat 2048

/-- The nearest multiple is at most half a unit away, on either side. -/
theorem nearest2048_bounds {n : Int} (h : 0 ≤ n) :
    n - 1024 ≤ 2048 * nearest2048 n ∧ 2048 * nearest2048 n ≤ n + 1024 := by
  simp only [nearest2048, roundQuotient]
  repeat' split
  all_goals omega

/-- The multiple nearest to a large integer has a full significand, or the next power of two. -/
theorem Large.nearest2048_full {n : Int} (h : Large n) :
    4503599627370496 ≤ nearest2048 n ∧ nearest2048 n ≤ 9007199254740992 := by
  have bounds := nearest2048_bounds (n := n) (by have := h.low; omega)
  obtain ⟨low, high⟩ := h
  omega

namespace Format

theorem leadingBit_binary64 : binary64.leadingBit = 4503599627370496 := rfl

theorem minExponent_binary64 : binary64.minExponent = -1074 := rfl

theorem infinity_binary64 : binary64.infinity = 9218868437227405312 := rfl

theorem signBit_binary64 : binary64.signBit = 9223372036854775808 := rfl

/-- A large integer has a full significand in units of 2048. -/
theorem exponentOf_large {n : Int} (h : Large n) : binary64.exponentOf n.toNat 1 = 11 := by
  obtain ⟨low, high⟩ := h
  have log : n.toNat.log2 = 63 := (Nat.log2_eq_iff (by omega)).mpr ⟨by omega, by omega⟩
  have least :
      max ((63 : Nat) - (1 : Nat).log2 - binary64.precision : Int) binary64.minExponent = 10 := rfl
  have scale : scaled n.toNat 1 10 = (n.toNat, 1024) := rfl
  simp only [exponentOf, if_neg (show ¬ n.toNat = 0 by omega), log, least, scale,
    leadingBit_binary64]
  exact if_pos (by omega)

/-- A large integer keeps its exponent; only the significand depends on it. -/
theorem magnitude_large {n : Int} (h : Large n) :
    binary64.magnitude n.toNat 1 = 1085 * 4503599627370496 + nearest2048 n := by
  have full := h.nearest2048_full
  have scale : scaled n.toNat 1 11 = (n.toNat, 2048) := rfl
  have steps : ((11 : Int) - binary64.minExponent).toNat = 1085 := rfl
  simp only [magnitude, exponentOf_large h, scale, steps, leadingBit_binary64, infinity_binary64]
  exact Nat.min_eq_left (by rw [nearest2048] at full; omega)

end Format

namespace Binary64

/-- The bits of a large integer are those of its magnitude, as there is no sign. -/
theorem toNat_bits_ofInt {n : Int} (h : Large n) :
    (ofInt n).bits.toNat = 1085 * 4503599627370496 + nearest2048 n := by
  have full := h.nearest2048_full
  have positive : decide (n < 0) = false := by have := h.low; simp; omega
  have natural : n.natAbs = n.toNat := by have := h.low; omega
  rw [ofInt, nearest, Format.nearest, positive, natural, Format.magnitude_large h, if_neg (by simp),
    Nat.zero_add]
  exact Nat.mod_eq_of_lt (by omega)

/-- The double of a large integer is finite, and its number is the nearest multiple of 2048. -/
theorem quotient_ofInt {n : Int} (h : Large n) :
    (ofInt n).isFinite = true ∧ (ofInt n).quotient = (2048 * nearest2048 n, 1) := by
  obtain ⟨low, high⟩ := h.nearest2048_full
  have word := toNat_bits_ofInt h
  generalize nearest2048 n = k at *
  have body : (ofInt n).bits.toNat % 9223372036854775808 = (ofInt n).bits.toNat :=
    Nat.mod_eq_of_lt (by omega)
  have datum : (ofInt n).datum = .finite false
      (if k < 9007199254740992 then k else 4503599627370496)
      (if k < 9007199254740992 then 11 else 12) := by
    have positive : decide (Format.binary64.signBit ≤ (ofInt n).bits.toNat) = false := by
      rw [Format.signBit_binary64, decide_eq_false_iff_not]
      omega
    simp only [Binary64.datum, Format.decode, positive]
    simp only [Format.leadingBit_binary64, Format.minExponent_binary64, Format.infinity_binary64,
      Format.signBit_binary64, body]
    rw [if_neg (by omega), if_neg (by omega), if_neg (by omega)]
    split <;> (congr 1 <;> omega)
  rw [isFinite, quotient, datum]
  refine ⟨rfl, ?_⟩
  -- a significand rounded up to the next power of two goes into the exponent
  by_cases carried : k = 9007199254740992
  · rw [carried]
    rfl
  · rw [if_pos (by omega), if_pos (by omega)]
    exact congrArg (·, 1) (Nat.mul_comm k 2048)

/-- Large integers become one double exactly if they are rounded to the same multiple. -/
theorem ofInt_eq_iff {m n : Int} (hm : Large m) (hn : Large n) :
    ofInt m = ofInt n ↔ nearest2048 m = nearest2048 n := by
  constructor
  · intro same
    have words := congrArg (fun x : Binary64 => x.bits.toNat) same
    simp only [toNat_bits_ofInt hm, toNat_bits_ofInt hn] at words
    omega
  · intro same
    have words : (ofInt m).bits.toNat = (ofInt n).bits.toNat := by
      rw [toNat_bits_ofInt hm, toNat_bits_ofInt hn, same]
    exact congrArg Binary64.mk (UInt64.toNat_inj.mp words)

end Binary64

end SqlBuilder.Number
