import Mathlib
import PhpCompletion.Binary64

/-! # The fields of a binary64 number

A number's 64 bits are its sign, its biased exponent and its fraction, from the top down:
`ofFields` puts the three together and `negative`, `biased` and `fraction` take them apart
again (`ofFields_fields`). A finite number other than the zeros is `mantissa * 2 ^ exponent`:
a normal one has a mantissa of 53 bits, the hidden bit included, and a subnormal one fewer, at
the least exponent `-1074`.
-/

namespace PhpCompletion.Binary64

theorem negative_iff (x : Binary64) : x.negative = true ↔ 2 ^ 63 ≤ x.bits.toNat := by
  have hlt := x.bits.toNat_lt
  have top : (x.bits >>> 63).toNat = x.bits.toNat / 2 ^ 63 := by
    rw [UInt64.toNat_shiftRight, Nat.shiftRight_eq_div_pow]
    rfl
  simp only [negative, beq_iff_eq]
  rw [← UInt64.toNat_inj, top]
  simp only [UInt64.toNat_one]
  omega

theorem biased_eq (x : Binary64) : x.biased = x.bits.toNat / 2 ^ 52 % 2 ^ 11 := by
  simp only [biased, UInt64.toNat_and, UInt64.toNat_shiftRight]
  rw [show (0x7FF : UInt64).toNat = 2 ^ 11 - 1 from rfl, Nat.and_two_pow_sub_one_eq_mod,
    Nat.shiftRight_eq_div_pow]
  rfl

theorem fraction_eq (x : Binary64) : x.fraction = x.bits.toNat % 2 ^ 52 := by
  simp only [fraction, UInt64.toNat_and]
  rw [show (0xFFFFFFFFFFFFF : UInt64).toNat = 2 ^ 52 - 1 from rfl, Nat.and_two_pow_sub_one_eq_mod]

theorem biased_lt (x : Binary64) : x.biased < 2048 := by
  rw [biased_eq]
  omega

theorem fraction_lt (x : Binary64) : x.fraction < hiddenBit := by
  rw [fraction_eq, hiddenBit]
  omega

theorem bits_toNat (x : Binary64) :
    x.bits.toNat = (if x.negative then 0x8000000000000000 else 0) + x.biased * 0x10000000000000 +
      x.fraction := by
  have hlt := x.bits.toNat_lt
  rw [biased_eq, fraction_eq]
  by_cases hn : x.negative = true
  · have := (negative_iff x).mp hn
    rw [if_pos hn]
    omega
  · have := mt (negative_iff x).mpr hn
    rw [if_neg hn]
    omega

/-- A number is its three fields put together. -/
theorem ofFields_fields (x : Binary64) : ofFields x.negative x.biased x.fraction = x := by
  unfold ofFields
  rw [Nat.mod_eq_of_lt x.biased_lt,
    Nat.mod_eq_of_lt (show x.fraction < 0x10000000000000 from x.fraction_lt), ← bits_toNat,
    UInt64.ofNat_toNat]

/-- Fields within their ranges are laid side by side in the bits. -/
theorem toNat_bits_ofFields (neg : Bool) {b f : ℕ} (hb : b < 2048) (hf : f < hiddenBit) :
    (ofFields neg b f).bits.toNat =
      (if neg then 0x8000000000000000 else 0) + b * 0x10000000000000 + f := by
  simp only [hiddenBit] at hf
  simp only [ofFields, UInt64.toNat_ofNat', Nat.mod_eq_of_lt hb, Nat.mod_eq_of_lt hf]
  split <;> omega

/-- Fields within their ranges are taken apart as they were put together. -/
theorem fields_ofFields (neg : Bool) {b f : ℕ} (hb : b < 2048) (hf : f < hiddenBit) :
    (ofFields neg b f).negative = neg ∧ (ofFields neg b f).biased = b ∧
      (ofFields neg b f).fraction = f := by
  have bits := toNat_bits_ofFields neg hb hf
  simp only [hiddenBit] at hf
  refine ⟨?_, by rw [biased_eq, bits]; split <;> omega, by rw [fraction_eq, bits]; split <;> omega⟩
  cases neg with
  | true =>
      rw [if_pos rfl] at bits
      exact (negative_iff _).mpr (by omega)
  | false =>
      rw [if_neg Bool.false_ne_true] at bits
      exact Bool.eq_false_iff.mpr fun h => absurd ((negative_iff _).mp h) (by omega)

theorem eq_zero_of_isZero {x : Binary64} (h : x.isZero = true) : x = zero x.negative := by
  simp only [isZero, Bool.and_eq_true, beq_iff_eq] at h
  calc x = ofFields x.negative x.biased x.fraction := (ofFields_fields x).symm
    _ = zero x.negative := by rw [h.1, h.2, zero]

theorem eq_infinity_of_isInfinite {x : Binary64} (h : x.isInfinite = true) :
    x = infinity x.negative := by
  simp only [isInfinite, Bool.and_eq_true, beq_iff_eq] at h
  calc x = ofFields x.negative x.biased x.fraction := (ofFields_fields x).symm
    _ = infinity x.negative := by rw [h.1, h.2, infinity]

/-- A finite number other than the zeros. -/
structure FiniteNonzero (x : Binary64) : Prop where
  finite : x.biased < 2047
  nonzero : x.biased ≠ 0 ∨ x.fraction ≠ 0

theorem finiteNonzero_of {x : Binary64} (hn : x.isNaN = false) (hi : x.isInfinite = false)
    (hz : x.isZero = false) : x.FiniteNonzero := by
  have hb := x.biased_lt
  simp only [isNaN, isInfinite, isZero, Bool.and_eq_false_iff, beq_eq_false_iff_ne,
    bne_eq_false_iff_eq] at hn hi hz
  constructor <;> omega

theorem mantissa_lt (x : Binary64) : x.mantissa < 2 * hiddenBit := by
  have := x.fraction_lt
  unfold mantissa
  split <;> omega

theorem exponent_ge (x : Binary64) : -1074 ≤ x.exponent := by
  unfold exponent
  split <;> omega

section FiniteNonzero

variable {x : Binary64} (hx : x.FiniteNonzero)
include hx

theorem mantissa_pos : 0 < x.mantissa := by
  have := hx.nonzero
  unfold mantissa hiddenBit
  split <;> omega

theorem exponent_le : x.exponent ≤ 971 := by
  have := hx.finite
  unfold exponent
  split <;> omega

end FiniteNonzero

theorem mantissa_of_normal {x : Binary64} (h : x.biased ≠ 0) :
    x.mantissa = x.fraction + hiddenBit := by
  simp [mantissa, h]

theorem exponent_of_normal {x : Binary64} (h : x.biased ≠ 0) :
    x.exponent = (x.biased : ℤ) - 1075 := by
  simp [exponent, h]

theorem mantissa_of_subnormal {x : Binary64} (h : x.biased = 0) : x.mantissa = x.fraction := by
  simp [mantissa, h]

theorem exponent_of_subnormal {x : Binary64} (h : x.biased = 0) : x.exponent = -1074 := by
  simp [exponent, h]

end PhpCompletion.Binary64
