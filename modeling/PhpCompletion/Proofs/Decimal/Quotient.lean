import PhpCompletion.Proofs.Json.Scalars

/-! # Whole numbers and their quotients

A positive whole number below `2 ^ 53` reads as a binary64 number exactly (`ofInt?_isWhole`),
and dividing such a number by a positive whole number rounds the exact ratio once
(`quotient_of_isWhole`): rounding a ratio sees its value only, not the way it is written
(`nearestRatio_mul_right`).

The bits of a positive rounded ratio at a normal exponent count the exponent in whole hidden
bits above the least one, plus a mantissa that is the floor of the scaled ratio or one above
it (`nearestRatio_bits`); between positive finite numbers `lt` is the order of the bits
(`Binary64.lt_of_bits_lt`).
-/

namespace PhpCompletion

namespace Binary64

theorem lt_of_bits_lt {x y : Binary64} (hx : 0 < x.bits.toNat)
    (hy : y.bits.toNat < 0x7FF0000000000000) (h : x.bits.toNat < y.bits.toNat) :
    x.lt y = true := by
  have finite : ∀ z : Binary64, z.bits.toNat < 0x7FF0000000000000 →
      z.isNaN = false ∧ z.negative = false := by
    intro z hz
    refine ⟨?_, Bool.eq_false_iff.mpr fun hn => absurd ((negative_iff z).mp hn) (by omega)⟩
    have := biased_eq z
    simp only [isNaN, Bool.and_eq_false_iff, beq_eq_false_iff_ne]
    omega
  obtain ⟨xNaN, xPos⟩ := finite x (by omega)
  obtain ⟨yNaN, yPos⟩ := finite y hy
  have xNonzero : x.isZero = false := by
    have bits := bits_toNat x
    simp only [xPos, Bool.false_eq_true, if_false] at bits
    simp only [isZero, Bool.and_eq_false_iff, beq_eq_false_iff_ne]
    omega
  simp only [lt, xNaN, yNaN, xNonzero, xPos, yPos, Bool.false_and, Bool.or_false,
    Bool.false_eq_true, if_false, decide_eq_true_eq]
  exact UInt64.lt_iff_toNat_lt.mpr h

/-- `x` is the positive whole number `d`: its mantissa and `d` are one value, each scaled to
natural numbers by the power of two its exponent asks for. -/
structure IsWhole (x : Binary64) (d : ℕ) : Prop where
  positive : x.negative = false
  finite : x.FiniteNonzero
  value : x.mantissa * Nat.pow 2 (Decimal.pos x.exponent) =
    d * Nat.pow 2 (Decimal.pos (-x.exponent))

end Binary64

namespace Decimal

open Binary64

theorem compare_mul_right {a b k : ℕ} (hk : 0 < k) : compare (a * k) (b * k) = compare a b := by
  rcases lt_trichotomy a b with lt | rfl | gt
  · rw [Nat.compare_eq_lt.mpr lt, Nat.compare_eq_lt.mpr (Nat.mul_lt_mul_of_pos_right lt hk)]
  · rw [Nat.compare_eq_eq.mpr rfl, Nat.compare_eq_eq.mpr rfl]
  · rw [Nat.compare_eq_gt.mpr gt, Nat.compare_eq_gt.mpr (Nat.mul_lt_mul_of_pos_right gt hk)]

theorem roundHalfEven_mul_right {a b k : ℕ} (hk : 0 < k) :
    roundHalfEven (a * k) (b * k) = roundHalfEven a b := by
  unfold roundHalfEven
  rw [Nat.mul_div_mul_right _ _ hk, Nat.mul_mod_mul_right, ← Nat.mul_assoc, compare_mul_right hk]

theorem roundedAt_mul_right {a b k : ℕ} (hk : 0 < k) (e : ℤ) :
    roundedAt (a * k) (b * k) e = roundedAt a b e := by
  unfold roundedAt
  rw [Nat.mul_right_comm a, Nat.mul_right_comm b, roundHalfEven_mul_right hk]

theorem nearestRatio_mul_right (neg : Bool) {a b k : ℕ} (ha : 0 < a) (hb : 0 < b) (hk : 0 < k) :
    nearestRatio neg (a * k) (b * k) = nearestRatio neg a b := by
  have same : ((a * k : ℕ) : ℚ) / ((b * k : ℕ) : ℚ) = (a : ℚ) / b := by
    push_cast
    exact mul_div_mul_right _ _ (by positivity)
  -- both first guesses end at the one exponent where the common ratio has 53 bits
  have scaled := fits_fitExponent (Nat.mul_pos ha hk) (Nat.mul_pos hb hk)
  rw [same] at scaled
  rw [nearestRatio_eq, nearestRatio_eq, scaled.unique (fits_fitExponent ha hb),
    roundedAt_mul_right hk]

theorem Fits.lt_of_large {r : ℚ} {E e : ℤ} (h : Fits r E) (large : 2 ^ 53 ≤ r * 2 ^ (-e)) :
    e < E := by
  by_contra le
  have := scaled_le h.pos.le (not_lt.mp le)
  linarith [h.2]

/-- Dividing a whole number rounds the exact ratio once. -/
theorem quotient_of_isWhole {x : Binary64} {d den : ℕ} (hx : x.IsWhole d) (hd : 0 < d)
    (hden : 0 < den) : quotient x den = nearestRatio false d den := by
  unfold quotient
  rw [if_neg (by simp [hx.finite.isZero_false]), hx.positive, hx.value]
  exact nearestRatio_mul_right false hd hden (by rw [Nat.pow_eq]; positivity)

theorem shifted_bounds {d : ℕ} (hd : 0 < d) (hlt : d < 2 ^ 53) :
    Nat.log2 d ≤ 52 ∧ 2 ^ 52 ≤ d * 2 ^ (52 - Nat.log2 d) ∧ d * 2 ^ (52 - Nat.log2 d) < 2 ^ 53 := by
  have low : 2 ^ Nat.log2 d ≤ d := Nat.log2_self_le hd.ne'
  have high : d < 2 ^ (Nat.log2 d + 1) := Nat.lt_log2_self
  have short : Nat.log2 d ≤ 52 := Nat.le_of_lt_succ ((Nat.log2_lt hd.ne').mpr hlt)
  refine ⟨short, ?_, ?_⟩
  · calc 2 ^ 52 = 2 ^ Nat.log2 d * 2 ^ (52 - Nat.log2 d) := by
          rw [← pow_add, Nat.add_sub_cancel' short]
      _ ≤ d * 2 ^ (52 - Nat.log2 d) := Nat.mul_le_mul_right _ low
  · calc d * 2 ^ (52 - Nat.log2 d) < 2 ^ (Nat.log2 d + 1) * 2 ^ (52 - Nat.log2 d) :=
          Nat.mul_lt_mul_of_pos_right high (by positivity)
      _ = 2 ^ 53 := by rw [← pow_add]; congr 1; omega

/-- A positive whole number below `2 ^ 53` reads exactly: its mantissa is the number shifted up
to 53 bits. -/
theorem ofInt?_isWhole {n : ℤ} (hpos : 0 < n) (hlt : n < 2 ^ 53) :
    ∃ x, ofInt? n = some x ∧ x.IsWhole n.toNat := by
  set d := n.toNat with hd
  have dpos : 0 < d := by omega
  obtain ⟨short, mLow, mHigh⟩ := shifted_bounds dpos (by omega)
  set p := Nat.log2 d
  set y := ofFields false (p + 1023) (d * 2 ^ (52 - p) - hiddenBit)
  obtain ⟨sign, biased, fraction⟩ : y.negative = false ∧ y.biased = p + 1023 ∧
      y.fraction = d * 2 ^ (52 - p) - hiddenBit :=
    fields_ofFields false (by omega) (by simp only [hiddenBit]; omega)
  have finite : y.FiniteNonzero := ⟨by omega, .inl (by omega)⟩
  have mantissa : y.mantissa = d * 2 ^ (52 - p) := by
    rw [mantissa_of_normal (by omega), fraction]
    simp only [hiddenBit]
    omega
  have exponent : y.exponent = (p : ℤ) - 52 := by
    rw [exponent_of_normal (by omega), biased]
    push_cast
    ring
  have whole : y.IsWhole d := by
    refine ⟨sign, finite, ?_⟩
    rw [mantissa, exponent, show pos ((p : ℤ) - 52) = 0 by simp only [pos]; omega,
      show pos (-((p : ℤ) - 52)) = 52 - p by simp only [pos]; omega]
    simp [Nat.pow_eq]
  have value : (d : ℚ) * 10 ^ (0 : ℤ) = y.mantissa * 2 ^ y.exponent := by
    rw [mantissa, exponent, zpow_zero, mul_one, zpow_sub₀ two_ne_zero, Nat.cast_mul,
      Nat.cast_pow, Nat.cast_ofNat, zpow_natCast, zpow_ofNat, pow_sub₀ _ two_ne_zero short]
    field_simp
  have read := nearest_of_rounds false dpos 0 finite (value ▸ rounds_self y)
  have own := ofFields_fields y
  rw [sign] at own
  rw [own] at read
  refine ⟨y, ?_, whole⟩
  have sign' : decide (n < 0) = false := decide_eq_false (by omega)
  have abs : n.natAbs = d := by omega
  simp only [ofInt?, sign', abs, read, finite.isInfinite_false, Bool.false_eq_true, if_false]

theorem roundedAt_floor (num den : ℕ) (e : ℤ) :
    (scaledQuotient num den e).1 ≤ roundedAt num den e ∧
      roundedAt num den e ≤ (scaledQuotient num den e).1 + 1 := by
  unfold roundedAt roundHalfEven scaledQuotient
  dsimp only
  split <;> (try split) <;> omega

theorem toNat_bits_place {q : ℕ} {e : ℤ} (lo : hiddenBit ≤ q) (hi : q ≤ 2 * hiddenBit)
    (he : -1074 ≤ e) (he' : e ≤ 969) :
    (place false q e).bits.toNat = (e + 1074).toNat * hiddenBit + q := by
  unfold place
  by_cases carry : q = 2 * hiddenBit
  · simp only [carry, if_true, lt_irrefl, if_false]
    rw [if_neg (by omega), toNat_bits_ofFields false (by omega) (by simp [hiddenBit])]
    simp only [hiddenBit, Bool.false_eq_true, if_false]
    omega
  · simp only [carry, if_false]
    rw [if_neg (by omega), if_neg (by omega),
      toNat_bits_ofFields false (by omega) (by simp only [hiddenBit] at *; omega)]
    simp only [hiddenBit, Bool.false_eq_true, if_false] at *
    omega

/-- The bits of a positive ratio rounded at a normal exponent `e`, the one where it has 53
bits. -/
theorem nearestRatio_bits {num den : ℕ} (hnum : 0 < num) (hden : 0 < den) {e : ℤ}
    (fits : Fits (num / den) e) (he : -1074 ≤ e) (he' : e ≤ 969) :
    ∃ q, hiddenBit ≤ q ∧ q ≤ 2 * hiddenBit ∧ ⌊(num : ℚ) / den * 2 ^ (-e)⌋₊ ≤ q ∧
      (nearestRatio false num den).bits.toNat = (e + 1074).toNat * hiddenBit + q := by
  have floorLow : 2 ^ 52 ≤ ⌊(num : ℚ) / den * 2 ^ (-e)⌋₊ := Nat.le_floor (by exact_mod_cast fits.1)
  have floorHigh : ⌊(num : ℚ) / den * 2 ^ (-e)⌋₊ < 2 ^ 53 :=
    (Nat.floor_lt (by positivity)).mpr (by exact_mod_cast fits.2)
  have rounded := roundedAt_floor num den e
  rw [scaledQuotient_fst num den e hden] at rounded
  have lo : hiddenBit ≤ roundedAt num den e := by simp only [hiddenBit]; omega
  have hi : roundedAt num den e ≤ 2 * hiddenBit := by simp only [hiddenBit]; omega
  refine ⟨roundedAt num den e, lo, hi, rounded.1, ?_⟩
  rw [nearestRatio_eq, (fits_fitExponent hnum hden).unique fits, max_eq_left he]
  exact toNat_bits_place lo hi he he'

end Decimal

end PhpCompletion
