import Mathlib
import PhpCompletion.Decimal.Nearest
import PhpCompletion.Proofs.Binary64.Fields

/-! # Reading a decimal as a binary64 number

A finite number other than the zeros is read back from every decimal of its rounding interval:
the numbers within half a unit of its last mantissa bit, a quarter below when the mantissa is
the hidden bit alone and the neighbour beneath has a smaller exponent, the ends included when
the mantissa is even (`Rounds`). That is `nearest_of_rounds`.

The reader works with exact natural numbers: it scales the decimal by a power of two until the
quotient has 53 bits (`fitExponent`), rounds it half to even and carries into the exponent. Here
every step is read as rational arithmetic on `num / den * 2 ^ -e`: the first guess of the
exponent is off by at most one (`fits_fitExponent`), the exponent that fits is unique, and the
rounding gives the mantissa back because the decimal is within half a unit of it.
-/

namespace PhpCompletion

namespace Binary64

/-- The lower neighbour is twice as close as the upper one: the mantissa is the hidden bit
alone, above the least normal exponent. -/
def boundary (x : Binary64) : Bool := x.fraction == 0 && 1 < x.biased

/-- The lower end of the numbers that read as `x`, in units of its last mantissa bit. -/
def lowEnd (x : Binary64) : ℚ := x.mantissa - if x.boundary then 1 / 4 else 1 / 2

/-- `r` reads as the finite nonzero `x`: in units of `x`'s last mantissa bit it lies between
`lowEnd x` and half a unit above the mantissa, and on an end only when the mantissa is even. -/
structure Rounds (x : Binary64) (r : ℚ) : Prop where
  above : x.lowEnd ≤ r * 2 ^ (-x.exponent)
  below : r * 2 ^ (-x.exponent) ≤ x.mantissa + 1 / 2
  onEnd : r * 2 ^ (-x.exponent) = x.lowEnd ∨ r * 2 ^ (-x.exponent) = x.mantissa + 1 / 2 →
    x.mantissa % 2 = 0

theorem lowEnd_ge (x : Binary64) : (x.mantissa : ℚ) - 1 / 2 ≤ x.lowEnd := by
  unfold lowEnd
  split <;> linarith

theorem lowEnd_lt (x : Binary64) : x.lowEnd < x.mantissa := by
  unfold lowEnd
  split <;> linarith

theorem lowEnd_of_not_boundary {x : Binary64} (h : x.boundary = false) :
    x.lowEnd = x.mantissa - 1 / 2 := by
  simp [lowEnd, h]

theorem mantissa_add_one_le (x : Binary64) : (x.mantissa : ℚ) + 1 ≤ 2 ^ 53 := by
  have := x.mantissa_lt
  simp only [hiddenBit] at this
  exact_mod_cast this

theorem lowEnd_of_boundary {x : Binary64} (h : x.boundary = true) :
    x.lowEnd = x.mantissa - 1 / 4 := by
  simp [lowEnd, h]

theorem boundary_eq_true {x : Binary64} : x.boundary = true ↔ x.fraction = 0 ∧ 1 < x.biased := by
  simp [boundary]

theorem mantissa_of_boundary {x : Binary64} (h : x.boundary = true) : x.mantissa = hiddenBit := by
  obtain ⟨flat, normal⟩ := boundary_eq_true.mp h
  rw [mantissa_of_normal (by omega), flat, Nat.zero_add]

theorem Rounds.near {x : Binary64} {r : ℚ} (h : x.Rounds r) :
    (x.mantissa : ℚ) - 1 / 2 ≤ r * 2 ^ (-x.exponent) ∧
      r * 2 ^ (-x.exponent) ≤ x.mantissa + 1 / 2 ∧
      (r * 2 ^ (-x.exponent) = x.mantissa - 1 / 2 ∨
        r * 2 ^ (-x.exponent) = x.mantissa + 1 / 2 → x.mantissa % 2 = 0) := by
  refine ⟨(x.lowEnd_ge).trans h.above, h.below, ?_⟩
  rintro (low | high)
  · cases hb : x.boundary with
    | false => exact h.onEnd (.inl (by rw [low, lowEnd_of_not_boundary hb]))
    | true =>
        have := h.above
        simp only [lowEnd, hb, if_true] at this
        linarith
  · exact h.onEnd (.inr high)

theorem Rounds.digits_pos {x : Binary64} (hx : x.FiniteNonzero) {d : ℕ} {k : ℤ}
    (h : x.Rounds (d * 10 ^ k)) : 0 < d := by
  by_contra zero
  have above := h.above
  rw [Nat.eq_zero_of_not_pos zero, Nat.cast_zero, zero_mul, zero_mul] at above
  have := x.lowEnd_ge
  have : (1 : ℚ) ≤ x.mantissa := by exact_mod_cast mantissa_pos hx
  linarith

theorem Rounds.exponent_of_small {x : Binary64} {r : ℚ} (h : x.Rounds r)
    (hb : x.boundary = false) (small : r * 2 ^ (-x.exponent) < 2 ^ 52) : x.exponent = -1074 := by
  by_cases sub : x.biased = 0
  · exact exponent_of_subnormal sub
  · have low := h.above
    rw [lowEnd_of_not_boundary hb] at low
    have top : x.mantissa ≤ hiddenBit := by
      simp only [hiddenBit]
      have : (x.mantissa : ℚ) < 2 ^ 52 + 1 := by linarith
      exact_mod_cast Nat.lt_succ_iff.mp (by exact_mod_cast this)
    rw [mantissa_of_normal sub] at top
    simp only [boundary, Bool.and_eq_false_iff, beq_eq_false_iff_ne,
      decide_eq_false_iff_not, not_lt] at hb
    rw [exponent_of_normal sub]
    omega

end Binary64

namespace Decimal

open Binary64

theorem zpow_eq_pos_div {b : ℚ} (hb : b ≠ 0) (e : ℤ) : b ^ e = b ^ pos e / b ^ pos (-e) := by
  have split : e = (pos e : ℤ) - (pos (-e) : ℤ) := (Int.toNat_sub_toNat_neg e).symm
  conv_lhs => rw [split]
  rw [zpow_sub₀ hb, zpow_natCast, zpow_natCast]

theorem scaled_div (num den : ℕ) (e : ℤ) (hden : 0 < den) :
    ((num * Nat.pow 2 (pos (-e)) : ℕ) : ℚ) / ((den * Nat.pow 2 (pos e) : ℕ) : ℚ) =
      (num : ℚ) / den * 2 ^ (-e) := by
  rw [zpow_eq_pos_div two_ne_zero, neg_neg]
  simp only [Nat.pow_eq, Nat.cast_mul, Nat.cast_pow, Nat.cast_ofNat]
  field_simp

theorem scaledQuotient_fst (num den : ℕ) (e : ℤ) (hden : 0 < den) :
    (scaledQuotient num den e).1 = ⌊(num : ℚ) / den * 2 ^ (-e)⌋₊ := by
  rw [← scaled_div num den e hden, Nat.floor_div_eq_div]
  rfl

/-! ## Rounding half to even -/

theorem roundHalfEven_eq {a b m : ℕ} (hb : 0 < b) (lo : 2 * m * b ≤ 2 * a + b)
    (hi : 2 * a ≤ 2 * m * b + b) (lo_even : 2 * m * b = 2 * a + b → m % 2 = 0)
    (hi_even : 2 * a = 2 * m * b + b → m % 2 = 0) : roundHalfEven a b = m := by
  unfold roundHalfEven
  have split := Nat.div_add_mod a b
  have rem := Nat.mod_lt a hb
  generalize a / b = q at split ⊢
  generalize a % b = r at split rem ⊢
  subst split
  have below : q ≤ m := by
    by_contra h
    have : b * (m + 1) ≤ b * q := Nat.mul_le_mul_left b (by omega)
    nlinarith
  have above : m ≤ q + 1 := by
    by_contra h
    have : b * (q + 2) ≤ b * m := Nat.mul_le_mul_left b (by omega)
    nlinarith
  rcases Nat.lt_or_ge q m with hq | hq
  · obtain rfl : m = q + 1 := by omega
    rcases lt_trichotomy (2 * r) b with h | h | h
    · nlinarith
    · have := lo_even (by nlinarith)
      rw [(compare_eq_iff_eq).mpr h]
      dsimp only
      rw [if_pos (by omega)]
    · rw [(compare_gt_iff_gt).mpr h]
  · obtain rfl : m = q := by omega
    rcases lt_trichotomy (2 * r) b with h | h | h
    · rw [(compare_lt_iff_lt).mpr h]
    · have := hi_even (by nlinarith)
      rw [(compare_eq_iff_eq).mpr h]
      dsimp only
      rw [if_neg (by omega)]
    · nlinarith

theorem roundHalfEven_of_near {a b m : ℕ} (hb : 0 < b) (lo : (m : ℚ) - 1 / 2 ≤ a / b)
    (hi : (a : ℚ) / b ≤ m + 1 / 2)
    (ends : (a : ℚ) / b = m - 1 / 2 ∨ (a : ℚ) / b = m + 1 / 2 → m % 2 = 0) :
    roundHalfEven a b = m := by
  have hb' : (0 : ℚ) < b := by exact_mod_cast hb
  rw [le_div_iff₀ hb'] at lo
  rw [div_le_iff₀ hb'] at hi
  apply roundHalfEven_eq hb
  · have : (2 * m * b : ℚ) ≤ 2 * a + b := by linarith
    exact_mod_cast this
  · have : (2 * a : ℚ) ≤ 2 * m * b + b := by linarith
    exact_mod_cast this
  · intro h
    have h' : (2 * m * b : ℚ) = 2 * a + b := by exact_mod_cast h
    exact ends (.inl (by field_simp; linarith))
  · intro h
    have h' : (2 * a : ℚ) = 2 * m * b + b := by exact_mod_cast h
    exact ends (.inr (by field_simp; linarith))

/-! ## The exponent that fits -/

/-- At exponent `e` the ratio `r` has a mantissa of exactly 53 bits. -/
def Fits (r : ℚ) (e : ℤ) : Prop := 2 ^ 52 ≤ r * 2 ^ (-e) ∧ r * 2 ^ (-e) < 2 ^ 53

theorem scaled_pred (r : ℚ) (e : ℤ) : r * 2 ^ (-(e - 1)) = 2 * (r * 2 ^ (-e)) := by
  rw [neg_sub, sub_eq_add_neg, add_comm, zpow_add₀ two_ne_zero]
  ring

theorem scaled_le {r : ℚ} (hr : 0 ≤ r) {e e' : ℤ} (h : e ≤ e') :
    r * 2 ^ (-e') ≤ r * 2 ^ (-e) :=
  mul_le_mul_of_nonneg_left (zpow_le_zpow_right₀ one_le_two (by omega)) hr

theorem Fits.pos {r : ℚ} {e : ℤ} (h : Fits r e) : 0 < r := by
  have scaled : 0 < r * 2 ^ (-e) := lt_of_lt_of_le (by norm_num) h.1
  exact pos_of_mul_pos_left scaled (by positivity)

theorem Fits.lt_of_small {r : ℚ} {E e : ℤ} (h : Fits r E) (small : r * 2 ^ (-e) < 2 ^ 52) :
    E < e := by
  by_contra ge
  have := scaled_le h.pos.le (not_lt.mp ge)
  linarith [h.1]

theorem Fits.unique {r : ℚ} {e e' : ℤ} (h : Fits r e) (h' : Fits r e') : e = e' := by
  have small : ∀ {a b : ℤ}, Fits r a → a < b → r * 2 ^ (-b) < 2 ^ 52 := by
    intro a b ha hab
    have := scaled_le ha.pos.le (show a + 1 ≤ b by omega)
    have half := scaled_pred r (a + 1)
    rw [add_sub_cancel_right] at half
    linarith [ha.2]
  rcases lt_trichotomy e e' with lt | eq | gt
  · exact absurd h'.1 (not_le.mpr (small h lt))
  · exact eq
  · exact absurd h.1 (not_le.mpr (small h' gt))

theorem fitExponent_stop {num den : ℕ} (hden : 0 < den) {e : ℤ} (h : Fits (num / den) e)
    (fuel : ℕ) : fitExponent num den (fuel + 1) e = e := by
  have hq := scaledQuotient_fst num den e hden
  have high : ¬2 * hiddenBit ≤ (scaledQuotient num den e).1 := by
    rw [hq, Nat.le_floor_iff (by positivity)]
    have := h.2
    simp only [hiddenBit]
    push_cast
    linarith
  have low : ¬(scaledQuotient num den e).1 < hiddenBit := by
    rw [hq, Nat.floor_lt (by positivity)]
    have := h.1
    simp only [hiddenBit]
    push_cast
    linarith
  simp only [fitExponent, if_neg high, if_neg low]

theorem fitExponent_down {num den : ℕ} (hden : 0 < den) {e : ℤ}
    (h : (num : ℚ) / den * 2 ^ (-e) < 2 ^ 52) (fuel : ℕ) :
    fitExponent num den (fuel + 1) e = fitExponent num den fuel (e - 1) := by
  have hq := scaledQuotient_fst num den e hden
  have low : (scaledQuotient num den e).1 < hiddenBit := by
    rw [hq, Nat.floor_lt (by positivity)]
    simp only [hiddenBit]
    push_cast
    linarith
  have high : ¬2 * hiddenBit ≤ (scaledQuotient num den e).1 := by
    simp only [hiddenBit] at low ⊢
    omega
  simp only [fitExponent, if_neg high, if_pos low]

/-- The first guess, from the bit lengths, is the exponent that fits or the one above it. -/
theorem fits_fitExponent {num den : ℕ} (hnum : 0 < num) (hden : 0 < den) :
    Fits (num / den) (fitExponent num den 8 ((Nat.log2 num : ℤ) - Nat.log2 den - 52)) := by
  set e₀ : ℤ := (Nat.log2 num : ℤ) - Nat.log2 den - 52
  have numLow : (2 : ℚ) ^ Nat.log2 num ≤ num := by exact_mod_cast Nat.log2_self_le hnum.ne'
  have numHigh : (num : ℚ) < 2 ^ (Nat.log2 num + 1) := by exact_mod_cast Nat.lt_log2_self
  have denLow : (2 : ℚ) ^ Nat.log2 den ≤ den := by exact_mod_cast Nat.log2_self_le hden.ne'
  have denHigh : (den : ℚ) < 2 ^ (Nat.log2 den + 1) := by exact_mod_cast Nat.lt_log2_self
  rw [pow_succ] at numHigh denHigh
  have pos₁ : (0 : ℚ) < 2 ^ Nat.log2 num := by positivity
  have pos₂ : (0 : ℚ) < 2 ^ Nat.log2 den := by positivity
  have scale : (num : ℚ) / den * 2 ^ (-e₀) =
      num * 2 ^ Nat.log2 den * 2 ^ 52 / (den * 2 ^ Nat.log2 num) := by
    have : -e₀ = ((Nat.log2 den + 52 : ℕ) : ℤ) - (Nat.log2 num : ℕ) := by
      push_cast
      ring
    rw [this, zpow_sub₀ two_ne_zero, zpow_natCast, zpow_natCast, pow_add]
    field_simp
  have hd : (0 : ℚ) < den * 2 ^ Nat.log2 num := by positivity
  have above : 2 ^ 51 < (num : ℚ) / den * 2 ^ (-e₀) := by
    rw [scale, lt_div_iff₀ hd]
    nlinarith
  have below : (num : ℚ) / den * 2 ^ (-e₀) < 2 ^ 53 := by
    rw [scale, div_lt_iff₀ hd]
    nlinarith
  by_cases fits : 2 ^ 52 ≤ (num : ℚ) / den * 2 ^ (-e₀)
  · rw [fitExponent_stop hden ⟨fits, below⟩ 7]
    exact ⟨fits, below⟩
  · have next : Fits (num / den) (e₀ - 1) := by
      unfold Fits
      rw [scaled_pred]
      constructor <;> linarith
    rw [fitExponent_down hden (lt_of_not_ge fits), fitExponent_stop hden next 6]
    exact next

/-! ## Placing the rounded mantissa -/

/-- The nearest integer to `num / den * 2 ^ -e`, a tie going to the even one. -/
def roundedAt (num den : ℕ) (e : ℤ) : ℕ :=
  roundHalfEven (num * Nat.pow 2 (pos (-e))) (den * Nat.pow 2 (pos e))

/-- The number a rounded mantissa `q` at exponent `e` stands for: a carry into a 54th bit moves
the exponent up, a mantissa under 53 bits is subnormal, and an exponent past the largest is
infinity. -/
def place (neg : Bool) (q : ℕ) (e : ℤ) : Binary64 :=
  let (m, e) := if q = 2 * hiddenBit then (hiddenBit, e + 1) else (q, e)
  if m < hiddenBit then ofFields neg 0 m
  else if 2047 ≤ e + 1075 then infinity neg
  else ofFields neg (e + 1075).toNat (m - hiddenBit)

theorem nearestRatio_eq (neg : Bool) (num den : ℕ) :
    nearestRatio neg num den =
      place neg
        (roundedAt num den
          (max (fitExponent num den 8 ((Nat.log2 num : ℤ) - Nat.log2 den - 52)) (-1074)))
        (max (fitExponent num den 8 ((Nat.log2 num : ℤ) - Nat.log2 den - 52)) (-1074)) :=
  rfl

theorem roundedAt_of_near {num den m : ℕ} (hden : 0 < den) {e : ℤ}
    (lo : (m : ℚ) - 1 / 2 ≤ num / den * 2 ^ (-e)) (hi : (num : ℚ) / den * 2 ^ (-e) ≤ m + 1 / 2)
    (ends : (num : ℚ) / den * 2 ^ (-e) = m - 1 / 2 ∨ (num : ℚ) / den * 2 ^ (-e) = m + 1 / 2 →
      m % 2 = 0) :
    roundedAt num den e = m := by
  unfold roundedAt
  rw [← scaled_div num den e hden] at lo hi ends
  have hb : 0 < den * Nat.pow 2 (pos e) := Nat.mul_pos hden (by simp [Nat.pow_eq])
  exact roundHalfEven_of_near hb lo hi ends

theorem place_carry (neg : Bool) (e : ℤ) :
    place neg (2 * hiddenBit) (e - 1) = place neg hiddenBit e := by
  have single : hiddenBit ≠ 2 * hiddenBit := by simp [hiddenBit]
  simp only [place, single, ↓reduceIte, sub_add_cancel]

theorem place_mantissa (neg : Bool) {x : Binary64} (hx : x.FiniteNonzero) :
    place neg x.mantissa x.exponent = ofFields neg x.biased x.fraction := by
  have noCarry : x.mantissa ≠ 2 * hiddenBit := (x.mantissa_lt).ne
  simp only [place, if_neg noCarry]
  by_cases hb : x.biased = 0
  · have small : x.mantissa < hiddenBit := by
      rw [mantissa_of_subnormal hb]
      exact x.fraction_lt
    rw [if_pos small, hb, mantissa_of_subnormal hb]
  · have finite := hx.finite
    have large : ¬x.mantissa < hiddenBit := by
      rw [mantissa_of_normal hb]
      omega
    rw [if_neg large, exponent_of_normal hb, if_neg (by omega), mantissa_of_normal hb,
      Nat.add_sub_cancel]
    congr
    omega

/-! ## Reading back -/

/-- `nearestRatio` reads back every ratio of the rounding interval of a finite nonzero
number. -/
theorem nearestRatio_of_rounds (neg : Bool) {num den : ℕ} (hnum : 0 < num) (hden : 0 < den)
    {x : Binary64} (hx : x.FiniteNonzero) (h : x.Rounds (num / den)) :
    nearestRatio neg num den = ofFields neg x.biased x.fraction := by
  have fits := fits_fitExponent hnum hden
  rw [nearestRatio_eq]
  generalize fitExponent num den 8 ((Nat.log2 num : ℤ) - Nat.log2 den - 52) = E at fits ⊢
  have near := h.near
  have mantissaLt := x.mantissa_add_one_le
  by_cases big : 2 ^ 52 ≤ (num : ℚ) / den * 2 ^ (-x.exponent)
  · have own : Fits (num / den) x.exponent := ⟨big, by linarith [near.2.1]⟩
    rw [fits.unique own, max_eq_left x.exponent_ge,
      roundedAt_of_near hden near.1 near.2.1 near.2.2]
    exact place_mantissa neg hx
  · cases hb : x.boundary with
    | true =>
        have normal := (boundary_eq_true.mp hb).2
        have hm := mantissa_of_boundary hb
        have low := h.above
        simp only [lowEnd_of_boundary hb, hm, hiddenBit] at low
        push_cast at low
        have below : Fits (num / den) (x.exponent - 1) := by
          unfold Fits
          rw [scaled_pred]
          constructor <;> linarith
        have up : roundedAt num den (x.exponent - 1) = 2 * hiddenBit := by
          have top : ((2 * hiddenBit : ℕ) : ℚ) = 2 ^ 53 := by norm_num [hiddenBit]
          apply roundedAt_of_near hden <;> rw [scaled_pred, top]
          · linarith
          · linarith
          · intro _
            decide
        have least : -1074 ≤ x.exponent - 1 := by
          rw [exponent_of_normal (by omega)]
          omega
        rw [fits.unique below, max_eq_left least, up, place_carry, ← hm]
        exact place_mantissa neg hx
    | false =>
        have least := h.exponent_of_small hb (lt_of_not_ge big)
        have lower := fits.lt_of_small (lt_of_not_ge big)
        rw [max_eq_right (by omega), ← least, roundedAt_of_near hden near.1 near.2.1 near.2.2]
        exact place_mantissa neg hx

theorem digitCount_bounds {d : ℕ} (hd : 0 < d) :
    10 ^ (digitCount d - 1) ≤ d ∧ d < 10 ^ digitCount d := by
  have pos := Nat.length_toDigits_pos (b := 10) (n := d)
  unfold digitCount
  refine ⟨?_, (Nat.length_toDigits_le_iff (by norm_num) pos).mp le_rfl⟩
  rcases Nat.lt_or_ge 1 (Nat.toDigits 10 d).length with more | one
  · by_contra small
    have := (Nat.length_toDigits_le_iff (b := 10) (n := d) (by norm_num) (by omega)).mpr
      (not_le.mp small)
    omega
  · rw [show (Nat.toDigits 10 d).length - 1 = 0 by omega, pow_zero]
    exact hd

theorem bounds_of_rounds {x : Binary64} (hx : x.FiniteNonzero) {r : ℚ} (h : x.Rounds r) :
    2 ^ (-1075 : ℤ) ≤ r ∧ r < 2 ^ (53 + 971) := by
  have near := h.near
  have hm : (1 : ℚ) ≤ x.mantissa := by exact_mod_cast mantissa_pos hx
  have mantissaLt := x.mantissa_add_one_le
  have unit : (0 : ℚ) < 2 ^ x.exponent := by positivity
  have back : r = r * 2 ^ (-x.exponent) * 2 ^ x.exponent := by
    rw [mul_assoc _ (2 ^ (-x.exponent)), ← zpow_add₀ two_ne_zero, neg_add_cancel, zpow_zero,
      mul_one]
  constructor
  · have : (2 : ℚ) ^ (-1074 : ℤ) ≤ 2 ^ x.exponent :=
      zpow_le_zpow_right₀ one_le_two x.exponent_ge
    calc (2 : ℚ) ^ (-1075 : ℤ) = 1 / 2 * 2 ^ (-1074 : ℤ) := by
          rw [show (-1074 : ℤ) = -1075 + 1 by norm_num, zpow_add_one₀ two_ne_zero]
          ring
      _ ≤ r * 2 ^ (-x.exponent) * 2 ^ x.exponent := by
          apply mul_le_mul (by linarith only [near.1, hm]) this (by positivity)
            (by linarith only [near.1, hm])
      _ = r := back.symm
  · have : (2 : ℚ) ^ x.exponent ≤ 2 ^ (971 : ℤ) := zpow_le_zpow_right₀ one_le_two (exponent_le hx)
    calc r = r * 2 ^ (-x.exponent) * 2 ^ x.exponent := back
      _ < 2 ^ 53 * 2 ^ x.exponent :=
          mul_lt_mul_of_pos_right (by linarith only [near.2.1, mantissaLt]) unit
      _ ≤ 2 ^ 53 * 2 ^ (971 : ℤ) := mul_le_mul_of_nonneg_left this (pow_nonneg zero_le_two 53)
      _ = 2 ^ (53 + 971) := by rw [zpow_ofNat, pow_add]

theorem size_bounds {d : ℕ} (hd : 0 < d) {g : ℤ} (low : 2 ^ (-1075 : ℤ) ≤ (d : ℚ) * 10 ^ g)
    (high : (d : ℚ) * 10 ^ g < 2 ^ (53 + 971)) :
    -330 ≤ (digitCount d : ℤ) + g ∧ (digitCount d : ℤ) + g ≤ 310 := by
  have digits := digitCount_bounds hd
  have counted : 0 < digitCount d := Nat.length_toDigits_pos
  constructor
  · have upper : (d : ℚ) * 10 ^ g < 10 ^ ((digitCount d : ℤ) + g) := by
      rw [zpow_add₀ (by norm_num), zpow_natCast]
      apply mul_lt_mul_of_pos_right _ (by positivity)
      exact_mod_cast digits.2
    have limit : (10 : ℚ) ^ (-324 : ℤ) < 2 ^ (-1075 : ℤ) := by
      rw [zpow_neg, zpow_neg, zpow_ofNat, zpow_ofNat]
      apply inv_strictAnti₀ (by positivity)
      exact_mod_cast (by decide +kernel : (2 : ℕ) ^ 1075 < 10 ^ 324)
    have : (10 : ℚ) ^ (-324 : ℤ) < 10 ^ ((digitCount d : ℤ) + g) :=
      (limit.trans_le low).trans upper
    have := (zpow_lt_zpow_iff_right₀ (by norm_num : (1 : ℚ) < 10)).mp this
    omega
  · have lower : (10 : ℚ) ^ ((digitCount d : ℤ) - 1 + g) ≤ d * 10 ^ g := by
      rw [zpow_add₀ (by norm_num)]
      apply mul_le_mul_of_nonneg_right _ (by positivity)
      rw [show (digitCount d : ℤ) - 1 = ((digitCount d - 1 : ℕ) : ℤ) by omega, zpow_natCast]
      exact_mod_cast digits.1
    have limit : (2 : ℚ) ^ (53 + 971) < 10 ^ (309 : ℤ) := by
      rw [zpow_ofNat]
      exact_mod_cast (by decide +kernel : (2 : ℕ) ^ (53 + 971) < 10 ^ 309)
    have : (10 : ℚ) ^ ((digitCount d : ℤ) - 1 + g) < 10 ^ (309 : ℤ) :=
      lower.trans_lt (high.trans limit)
    have := (zpow_lt_zpow_iff_right₀ (by norm_num : (1 : ℚ) < 10)).mp this
    omega

/-- `nearest` reads back every decimal of the rounding interval of a finite nonzero number. -/
theorem nearest_of_rounds (neg : Bool) {d : ℕ} (hd : 0 < d) (g : ℤ) {x : Binary64}
    (hx : x.FiniteNonzero) (h : x.Rounds (d * 10 ^ g)) :
    nearest neg d g = ofFields neg x.biased x.fraction := by
  have ratio : ((d * Nat.pow 10 (pos g) : ℕ) : ℚ) / (Nat.pow 10 (pos (-g)) : ℕ) = d * 10 ^ g := by
    rw [zpow_eq_pos_div (by norm_num) g]
    simp only [Nat.pow_eq, Nat.cast_mul, Nat.cast_pow, Nat.cast_ofNat]
    ring
  have hnum : 0 < d * Nat.pow 10 (pos g) := Nat.mul_pos hd (by simp [Nat.pow_eq])
  have hden : 0 < Nat.pow 10 (pos (-g)) := by simp [Nat.pow_eq]
  obtain ⟨low, high⟩ := bounds_of_rounds hx h
  obtain ⟨sizeLow, sizeHigh⟩ := size_bounds hd low high
  unfold nearest
  rw [if_neg hd.ne', if_neg (by omega), if_neg (by omega)]
  exact nearestRatio_of_rounds neg hnum hden hx (ratio ▸ h)

end Decimal

end PhpCompletion
