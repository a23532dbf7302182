import PhpCompletion.Proofs.Decimal.Nearest

/-! # The shortest digits read back

The digits written for a finite number other than the zeros lie in its rounding interval
(`shortestOf_rounds`), so reading them gives the number back, bit for bit
(`nearest_shortestOf`).

The search tries grids of 1 to 17 significant digits and takes a grid point on either side of
the number when it passes the test against the interval's ends; a hit is in the interval
whichever side it is on, because the number itself is strictly inside. That the search always
hits is the one arithmetic fact: the grid of 17 digits is finer than the interval, as
`10 ^ 16 > 2 ^ 53`, so of two neighbouring grid points one passes its test.
-/

namespace PhpCompletion

namespace Decimal

open Binary64

theorem compare_eq_compare {α β : Type} [LinearOrder α] [LinearOrder β] {a b : α} {c d : β}
    (lt : a < b ↔ c < d) (eq : a = b ↔ c = d) : compare a b = compare c d := by
  rcases lt_trichotomy a b with h | h | h
  · rw [compare_lt_iff_lt.mpr h, compare_lt_iff_lt.mpr (lt.mp h)]
  · rw [compare_eq_iff_eq.mpr h, compare_eq_iff_eq.mpr (eq.mp h)]
  · have hcd : d < c := by
      rcases lt_trichotomy c d with h' | h' | h'
      · exact absurd (lt.mpr h') (not_lt.mpr h.le)
      · exact absurd (eq.mpr h') h.ne'
      · exact h'
    rw [compare_gt_iff_gt.mpr h, compare_gt_iff_gt.mpr hcd]

theorem compareScaled_eq (d : ℕ) (k : ℤ) (x : ℕ) (p : ℤ) :
    compareScaled d k x p = compare ((d : ℚ) * 10 ^ k) ((x : ℚ) * 2 ^ p) := by
  have scale : (0 : ℚ) < 10 ^ pos (-k) * 2 ^ pos (-p) := by positivity
  have left : (d : ℚ) * 10 ^ k * (10 ^ pos (-k) * 2 ^ pos (-p)) =
      ((d * Nat.pow 10 (pos k) * Nat.pow 2 (pos (-p)) : ℕ) : ℚ) := by
    rw [zpow_eq_pos_div (by norm_num) k]
    simp only [Nat.pow_eq, Nat.cast_mul, Nat.cast_pow, Nat.cast_ofNat]
    field_simp
  have right : (x : ℚ) * 2 ^ p * (10 ^ pos (-k) * 2 ^ pos (-p)) =
      ((x * Nat.pow 2 (pos p) * Nat.pow 10 (pos (-k)) : ℕ) : ℚ) := by
    rw [zpow_eq_pos_div two_ne_zero p]
    simp only [Nat.pow_eq, Nat.cast_mul, Nat.cast_pow, Nat.cast_ofNat]
    field_simp
  unfold compareScaled
  apply compare_eq_compare
  · rw [← Nat.cast_lt (α := ℚ), ← left, ← right]
    exact mul_lt_mul_iff_of_pos_right scale
  · rw [← Nat.cast_inj (R := ℚ), ← left, ← right]
    exact mul_left_inj' scale.ne'

theorem aboveLow_iff (i : Interval) (p : ℤ) (d : ℕ) (k : ℤ) :
    aboveLow i p d k = true ↔
      (i.low : ℚ) * 2 ^ p < d * 10 ^ k ∨ i.closed = true ∧ (i.low : ℚ) * 2 ^ p = d * 10 ^ k := by
  unfold aboveLow
  rw [compareScaled_eq]
  rcases lt_trichotomy ((d : ℚ) * 10 ^ k) ((i.low : ℚ) * 2 ^ p) with h | h | h
  · rw [compare_lt_iff_lt.mpr h]
    simp only [Bool.false_eq_true, false_iff, not_or, not_and]
    exact ⟨not_lt.mpr h.le, fun _ => h.ne'⟩
  · rw [compare_eq_iff_eq.mpr h, h]
    simp
  · rw [compare_gt_iff_gt.mpr h]
    simp [h]

theorem belowHigh_iff (i : Interval) (p : ℤ) (d : ℕ) (k : ℤ) :
    belowHigh i p d k = true ↔
      (d : ℚ) * 10 ^ k < i.high * 2 ^ p ∨ i.closed = true ∧ (d : ℚ) * 10 ^ k = i.high * 2 ^ p := by
  unfold belowHigh
  rw [compareScaled_eq]
  rcases lt_trichotomy ((d : ℚ) * 10 ^ k) ((i.high : ℚ) * 2 ^ p) with h | h | h
  · rw [compare_lt_iff_lt.mpr h]
    simp [h]
  · rw [compare_eq_iff_eq.mpr h, h]
    simp
  · rw [compare_gt_iff_gt.mpr h]
    simp only [Bool.false_eq_true, false_iff, not_or, not_and]
    exact ⟨not_lt.mpr h.le, fun _ => h.ne'⟩

/-! ## The interval of a number -/

theorem shortestOf_eq (x : Binary64) : shortestOf x = shortest x.mantissa x.exponent x.boundary :=
  rfl

theorem low_scaled {x : Binary64} (hx : x.FiniteNonzero) :
    ((interval x.mantissa x.boundary).low : ℚ) * 2 ^ (x.exponent - 2) =
      x.lowEnd * 2 ^ x.exponent := by
  have hm := mantissa_pos hx
  have quarter : (2 : ℚ) ^ (x.exponent - 2) = 2 ^ x.exponent / 4 := by
    rw [zpow_sub₀ two_ne_zero]
    norm_num
  rw [quarter]
  unfold interval lowEnd
  split
  · rw [Nat.cast_sub (by omega)]
    push_cast
    ring
  · rw [Nat.cast_sub (by omega)]
    push_cast
    ring

theorem high_scaled (x : Binary64) :
    ((interval x.mantissa x.boundary).high : ℚ) * 2 ^ (x.exponent - 2) =
      (x.mantissa + 1 / 2) * 2 ^ x.exponent := by
  have quarter : (2 : ℚ) ^ (x.exponent - 2) = 2 ^ x.exponent / 4 := by
    rw [zpow_sub₀ two_ne_zero]
    norm_num
  rw [quarter]
  unfold interval
  push_cast
  ring

theorem closed_iff (x : Binary64) :
    (interval x.mantissa x.boundary).closed = true ↔ x.mantissa % 2 = 0 := by
  simp [interval]

theorem scaled_lt_iff (x : Binary64) {a r : ℚ} :
    a * 2 ^ x.exponent < r ↔ a < r * 2 ^ (-x.exponent) := by
  rw [zpow_neg, ← div_eq_mul_inv, lt_div_iff₀ (by positivity)]

theorem lt_scaled_iff (x : Binary64) {a r : ℚ} :
    r < a * 2 ^ x.exponent ↔ r * 2 ^ (-x.exponent) < a := by
  rw [zpow_neg, ← div_eq_mul_inv, div_lt_iff₀ (by positivity)]

theorem scaled_eq_iff (x : Binary64) {a r : ℚ} :
    a * 2 ^ x.exponent = r ↔ a = r * 2 ^ (-x.exponent) := by
  rw [zpow_neg, ← div_eq_mul_inv, eq_div_iff (by positivity)]

theorem rounds_of_low {x : Binary64} (hx : x.FiniteNonzero) {d : ℕ} {k : ℤ}
    (low : aboveLow (interval x.mantissa x.boundary) (x.exponent - 2) d k = true)
    (under : (d : ℚ) * 10 ^ k < x.mantissa * 2 ^ x.exponent) : x.Rounds (d * 10 ^ k) := by
  rw [aboveLow_iff, low_scaled hx, scaled_lt_iff, scaled_eq_iff, closed_iff] at low
  rw [lt_scaled_iff] at under
  refine ⟨?_, by linarith, ?_⟩
  · rcases low with lt | ⟨-, eq⟩
    · exact lt.le
    · exact eq.le
  · rintro (atLow | atHigh)
    · rcases low with lt | ⟨even, -⟩
      · exact absurd atLow lt.ne'
      · exact even
    · linarith

theorem rounds_of_high {x : Binary64} {d : ℕ} {k : ℤ}
    (high : belowHigh (interval x.mantissa x.boundary) (x.exponent - 2) d k = true)
    (exceeds : (x.mantissa : ℚ) * 2 ^ x.exponent < d * 10 ^ k) : x.Rounds (d * 10 ^ k) := by
  rw [belowHigh_iff, high_scaled, lt_scaled_iff, eq_comm (a := (d : ℚ) * 10 ^ k), scaled_eq_iff,
    closed_iff] at high
  rw [scaled_lt_iff] at exceeds
  have low := x.lowEnd_lt
  refine ⟨by linarith, ?_, ?_⟩
  · rcases high with lt | ⟨-, eq⟩
    · exact lt.le
    · exact eq.ge
  · rintro (atLow | atHigh)
    · linarith
    · rcases high with lt | ⟨even, -⟩
      · exact absurd atHigh lt.ne
      · exact even

theorem rounds_self (x : Binary64) : x.Rounds (x.mantissa * 2 ^ x.exponent) := by
  have own : (x.mantissa : ℚ) * 2 ^ x.exponent * 2 ^ (-x.exponent) = x.mantissa := by
    rw [mul_assoc, ← zpow_add₀ two_ne_zero, add_neg_cancel, zpow_zero, mul_one]
  have low := x.lowEnd_lt
  refine ⟨by rw [own]; exact low.le, by rw [own]; linarith, ?_⟩
  rintro (atLow | atHigh) <;> rw [own] at * <;> linarith

/-! ## A grid of decimals -/

theorem grid_scaled (m : ℕ) (e g : ℤ) (a : ℕ) :
    ((a * (Nat.pow 2 (pos (-e)) * Nat.pow 10 (pos g)) : ℕ) : ℚ) =
        a * 10 ^ g * (2 ^ pos (-e) * 10 ^ pos (-g)) ∧
      ((m * Nat.pow 2 (pos e) * Nat.pow 10 (pos (-g)) : ℕ) : ℚ) =
        m * 2 ^ e * (2 ^ pos (-e) * 10 ^ pos (-g)) := by
  constructor
  · rw [zpow_eq_pos_div (by norm_num) g]
    simp only [Nat.pow_eq, Nat.cast_mul, Nat.cast_pow, Nat.cast_ofNat]
    field_simp
  · rw [zpow_eq_pos_div two_ne_zero e]
    simp only [Nat.pow_eq, Nat.cast_mul, Nat.cast_pow, Nat.cast_ofNat]
    field_simp

/-- What a grid test can give: the grid point below the number when it is the number itself
or passes the lower test, the one above when it passes the upper test. -/
theorem gridHit_cases {m : ℕ} {e k : ℤ} {i : Interval} {n : ℕ} {r : ℕ × ℤ}
    (h : gridHit m e i k n = some r) :
    let g := k - n + 1
    let num := m * Nat.pow 2 (pos e) * Nat.pow 10 (pos (-g))
    let den := Nat.pow 2 (pos (-e)) * Nat.pow 10 (pos g)
    (num % den = 0 ∧ r = (num / den, g)) ∨
      (num % den ≠ 0 ∧ aboveLow i (e - 2) (num / den) g = true ∧ r = (num / den, g)) ∨
      (num % den ≠ 0 ∧ belowHigh i (e - 2) (num / den + 1) g = true ∧ r = (num / den + 1, g)) := by
  unfold gridHit at h
  dsimp only at h ⊢
  split at h
  · exact .inl ⟨‹_›, (Option.some.inj h).symm⟩
  · rename_i inexact
    split at h
    · rename_i both
      rw [Bool.and_eq_true] at both
      split at h
      · exact .inr (.inl ⟨inexact, both.1, (Option.some.inj h).symm⟩)
      · exact .inr (.inr ⟨inexact, both.2, (Option.some.inj h).symm⟩)
      · split at h
        · exact .inr (.inl ⟨inexact, both.1, (Option.some.inj h).symm⟩)
        · exact .inr (.inr ⟨inexact, both.2, (Option.some.inj h).symm⟩)
    · split at h
      · exact .inr (.inl ⟨inexact, ‹_›, (Option.some.inj h).symm⟩)
      · split at h
        · exact .inr (.inr ⟨inexact, ‹_›, (Option.some.inj h).symm⟩)
        · cases h

/-- Every hit of the grid tests reads as the number. -/
theorem gridHit_rounds {x : Binary64} (hx : x.FiniteNonzero) {k : ℤ} {n : ℕ} {r : ℕ × ℤ}
    (h : gridHit x.mantissa x.exponent (interval x.mantissa x.boundary) k n = some r) :
    0 < r.1 ∧ x.Rounds (r.1 * 10 ^ r.2) := by
  suffices reads : x.Rounds (r.1 * 10 ^ r.2) from ⟨reads.digits_pos hx, reads⟩
  set g := k - n + 1
  set num := x.mantissa * Nat.pow 2 (pos x.exponent) * Nat.pow 10 (pos (-g))
  set den := Nat.pow 2 (pos (-x.exponent)) * Nat.pow 10 (pos g)
  have hden : 0 < den := by simp [den, Nat.pow_eq]
  have scale : (0 : ℚ) < 2 ^ pos (-x.exponent) * 10 ^ pos (-g) := by positivity
  have number := (grid_scaled x.mantissa x.exponent g 0).2
  have point : ∀ a : ℕ, ((a * den : ℕ) : ℚ) = a * 10 ^ g * (2 ^ pos (-x.exponent) * 10 ^ pos (-g)) :=
    fun a => (grid_scaled x.mantissa x.exponent g a).1
  rcases gridHit_cases h with ⟨exact, rfl⟩ | ⟨inexact, low, rfl⟩ | ⟨-, high, rfl⟩
  · have same : ((num / den : ℕ) : ℚ) * 10 ^ g = x.mantissa * 2 ^ x.exponent := by
      have eq := point (num / den)
      rw [Nat.div_mul_cancel (Nat.dvd_of_mod_eq_zero exact), number] at eq
      exact mul_right_cancel₀ scale.ne' eq.symm
    rw [same]
    exact rounds_self x
  · have lt : num / den * den < num := Nat.lt_of_le_of_ne (Nat.div_mul_le_self _ _) fun eq =>
      inexact (Nat.mod_eq_zero_of_dvd (Dvd.intro_left _ eq))
    rw [← Nat.cast_lt (α := ℚ), point, number] at lt
    exact rounds_of_low hx low (lt_of_mul_lt_mul_right lt scale.le)
  · have lt : num < (num / den + 1) * den := by
      rw [Nat.mul_comm]
      exact Nat.lt_mul_div_succ num hden
    rw [← Nat.cast_lt (α := ℚ), point, number] at lt
    exact rounds_of_high high (lt_of_mul_lt_mul_right lt scale.le)

/-! ## The search -/

theorem stripZeros_value (fuel : ℕ) (r : ℕ × ℤ) :
    ((stripZeros fuel r).1 : ℚ) * 10 ^ (stripZeros fuel r).2 = r.1 * 10 ^ r.2 := by
  induction fuel generalizing r with
  | zero => rfl
  | succ fuel ih =>
      obtain ⟨d, g⟩ := r
      unfold stripZeros
      split
      · rename_i zeros
        rw [ih]
        have tens : d = d / 10 * 10 := (Nat.div_mul_cancel (Nat.dvd_of_mod_eq_zero zeros.2)).symm
        dsimp only
        conv_rhs => rw [tens]
        rw [zpow_add_one₀ (by norm_num)]
        push_cast
        ring
      · rfl

theorem searchGrids_hit {m : ℕ} {e k : ℤ} {i : Interval} {fuel n : ℕ} {r : ℕ × ℤ}
    (h : searchGrids m e i k fuel n = some r) : ∃ n', gridHit m e i k n' = some r := by
  induction fuel generalizing n with
  | zero => cases h
  | succ fuel ih =>
      unfold searchGrids at h
      split at h
      · rename_i r' hit
        exact ⟨n, hit.trans h⟩
      · exact ih h

theorem searchGrids_ne_none {m : ℕ} {e k : ℤ} {i : Interval} {N : ℕ}
    (hit : gridHit m e i k N ≠ none) {fuel n : ℕ} (from_ : n ≤ N) (upTo : N < n + fuel) :
    searchGrids m e i k fuel n ≠ none := by
  induction fuel generalizing n with
  | zero => omega
  | succ fuel ih =>
      unfold searchGrids
      split
      · simp
      · rename_i missed
        refine ih ?_ (by omega)
        rcases Nat.lt_or_ge n N with lt | ge
        · omega
        · obtain rfl : n = N := by omega
          exact absurd missed hit

theorem ten_zpow_decimalExponent_le {m : ℕ} (hm : 0 < m) {e : ℤ} (he : -1074 ≤ e) :
    (10 : ℚ) ^ decimalExponent m e ≤ m * 2 ^ e := by
  set scaled := m * Nat.pow 2 (pos e) * Nat.pow 10 400 / Nat.pow 2 (pos (-e))
  have exact : ((m * Nat.pow 2 (pos e) * Nat.pow 10 400 : ℕ) : ℚ) / (Nat.pow 2 (pos (-e)) : ℕ) =
      m * 2 ^ e * 10 ^ 400 := by
    rw [zpow_eq_pos_div two_ne_zero e]
    simp only [Nat.pow_eq, Nat.cast_mul, Nat.cast_pow, Nat.cast_ofNat]
    field_simp
  have floor : scaled = ⌊(m : ℚ) * 2 ^ e * 10 ^ 400⌋₊ := by
    rw [← exact, Nat.floor_div_eq_div]
  have atLeast : (1 : ℚ) ≤ m * 2 ^ e * 10 ^ 400 := by
    have big : (2 : ℚ) ^ 1074 ≤ 10 ^ 400 := by
      exact_mod_cast (by decide +kernel : (2 : ℕ) ^ 1074 ≤ 10 ^ 400)
    have least : (1 : ℚ) ≤ 2 ^ (-1074 : ℤ) * 10 ^ 400 := by
      rw [zpow_neg, zpow_ofNat, ← div_eq_inv_mul, le_div_iff₀ (by positivity), one_mul]
      exact big
    have unit : (2 : ℚ) ^ (-1074 : ℤ) ≤ 2 ^ e := zpow_le_zpow_right₀ one_le_two he
    have hm' : (1 : ℚ) ≤ m := by exact_mod_cast hm
    calc (1 : ℚ) ≤ 2 ^ (-1074 : ℤ) * 10 ^ 400 := least
      _ ≤ 1 * 2 ^ e * 10 ^ 400 := by rw [one_mul]; gcongr
      _ ≤ m * 2 ^ e * 10 ^ 400 := by gcongr
  have one : 0 < scaled := by
    rw [floor]
    exact Nat.floor_pos.mpr atLeast
  have digits := (digitCount_bounds one).1
  have lower : (10 : ℚ) ^ (digitCount scaled - 1) ≤ m * 2 ^ e * 10 ^ 400 := by
    have : (10 : ℚ) ^ (digitCount scaled - 1) ≤ scaled := by exact_mod_cast digits
    exact this.trans (exact ▸ Nat.cast_div_le)
  have counted : 0 < digitCount scaled := Nat.length_toDigits_pos
  unfold decimalExponent
  dsimp only
  rw [show (digitCount scaled : ℤ) - 1 - 400 = ((digitCount scaled - 1 : ℕ) : ℤ) - (400 : ℕ) by
      omega,
    zpow_sub₀ (by norm_num), zpow_natCast, zpow_natCast, div_le_iff₀ (by positivity)]
  exact lower

theorem seventeen_step_lt_width {x : Binary64} (hx : x.FiniteNonzero) :
    (10 : ℚ) ^ (decimalExponent x.mantissa x.exponent - ((17 : ℕ) : ℤ) + 1) +
        x.lowEnd * 2 ^ x.exponent < (x.mantissa + 1 / 2) * 2 ^ x.exponent := by
  set k := decimalExponent x.mantissa x.exponent
  have guess : (10 : ℚ) ^ k ≤ x.mantissa * 2 ^ x.exponent :=
    ten_zpow_decimalExponent_le (mantissa_pos hx) x.exponent_ge
  have step : (10 : ℚ) ^ (k - ((17 : ℕ) : ℤ) + 1) = 10 ^ k / 10 ^ 16 := by
    rw [show k - ((17 : ℕ) : ℤ) + 1 = k - (16 : ℕ) by push_cast; ring, zpow_sub₀ (by norm_num),
      zpow_natCast]
  -- a mantissa has at most 16 digits, and the interval is half a unit wide on each side but
  -- at the bottom of a binade, where it is a quarter unit below
  have wide : (x.mantissa : ℚ) / 10 ^ 16 < x.mantissa + 1 / 2 - x.lowEnd := by
    cases hb : x.boundary with
    | false =>
        rw [lowEnd_of_not_boundary hb]
        have : (x.mantissa : ℚ) < 10 ^ 16 := by
          have := x.mantissa_lt
          simp only [hiddenBit] at this
          exact_mod_cast this.trans (by norm_num)
        rw [div_lt_iff₀ (by norm_num)]
        linarith
    | true =>
        simp only [lowEnd_of_boundary hb, mantissa_of_boundary hb, hiddenBit]
        norm_num
  rw [step]
  calc (10 : ℚ) ^ k / 10 ^ 16 + x.lowEnd * 2 ^ x.exponent
      ≤ x.mantissa * 2 ^ x.exponent / 10 ^ 16 + x.lowEnd * 2 ^ x.exponent := by
        gcongr
    _ = x.mantissa / 10 ^ 16 * 2 ^ x.exponent + x.lowEnd * 2 ^ x.exponent := by ring
    _ < (x.mantissa + 1 / 2 - x.lowEnd) * 2 ^ x.exponent + x.lowEnd * 2 ^ x.exponent := by
        gcongr
    _ = (x.mantissa + 1 / 2) * 2 ^ x.exponent := by ring

/-- The grid of 17 digits is finer than the rounding interval, so one of the two grid points
around the number passes its test. -/
theorem gridHit_seventeen {x : Binary64} (hx : x.FiniteNonzero) :
    gridHit x.mantissa x.exponent (interval x.mantissa x.boundary)
      (decimalExponent x.mantissa x.exponent) 17 ≠ none := by
  set k := decimalExponent x.mantissa x.exponent
  have fine := seventeen_step_lt_width hx
  unfold gridHit
  dsimp only
  set g := k - ((17 : ℕ) : ℤ) + 1
  set num := x.mantissa * Nat.pow 2 (pos x.exponent) * Nat.pow 10 (pos (-g))
  set den := Nat.pow 2 (pos (-x.exponent)) * Nat.pow 10 (pos g)
  split
  · simp
  · rename_i inexact
    have passes : aboveLow (interval x.mantissa x.boundary) (x.exponent - 2) (num / den) g = true ∨
        belowHigh (interval x.mantissa x.boundary) (x.exponent - 2) (num / den + 1) g = true := by
      by_cases low : aboveLow (interval x.mantissa x.boundary) (x.exponent - 2) (num / den) g
      · exact .inl low
      · right
        rw [aboveLow_iff, low_scaled hx, not_or, not_lt] at low
        rw [belowHigh_iff, high_scaled]
        left
        push_cast
        linarith [low.1]
    rcases passes with low | high
    · simp only [low, Bool.true_and]
      split
      · split
        · simp
        · simp
        · split <;> simp
      · simp
    · simp only [high, Bool.and_true]
      split
      · split
        · simp
        · simp
        · split <;> simp
      · simp

/-! ## Reading back the shortest digits -/

/-- When the search over the grids finds digits, they are the shortest digits once their
trailing zeros are stripped. -/
theorem shortest_of_search {m : ℕ} {e : ℤ} {b : Bool} {r : ℕ × ℤ}
    (h : searchGrids m e (interval m b) (decimalExponent m e) 17 1 = some r) :
    shortest m e b = stripZeros 20 r := by
  rw [shortest, h, Option.getD_some]

/-- The shortest digits of a finite nonzero number are not all zero and lie in its rounding
interval. -/
theorem shortestOf_rounds {x : Binary64} (hx : x.FiniteNonzero) :
    0 < (shortestOf x).1 ∧ x.Rounds ((shortestOf x).1 * 10 ^ (shortestOf x).2) := by
  -- the grid of 17 digits always holds a point of the interval, so the search ends in time
  have found : searchGrids x.mantissa x.exponent (interval x.mantissa x.boundary)
      (decimalExponent x.mantissa x.exponent) 17 1 ≠ none :=
    searchGrids_ne_none (gridHit_seventeen hx) (by omega) (by omega)
  obtain ⟨r, hr⟩ := Option.ne_none_iff_exists'.mp found
  obtain ⟨n, hit⟩ := searchGrids_hit hr
  have reads := (gridHit_rounds hx hit).2
  rw [← stripZeros_value 20 r] at reads
  rw [shortestOf_eq, shortest_of_search hr]
  exact ⟨reads.digits_pos hx, reads⟩

/-- Reading the shortest digits of a finite nonzero number gives the number back, bit for
bit. -/
theorem nearest_shortestOf {x : Binary64} (hx : x.FiniteNonzero) :
    nearest x.negative (shortestOf x).1 (shortestOf x).2 = x := by
  obtain ⟨pos, reads⟩ := shortestOf_rounds hx
  rw [nearest_of_rounds x.negative pos _ hx reads, ofFields_fields]

end Decimal

end PhpCompletion
