import PhpCompletion.Proofs.Json.Numbers

/-! # Reading written scalars back

`null`, `true` and `false` read as themselves, an integer of at most `digitLimit` digits as
itself, and a binary64 number as itself, bit for bit, except that every not-a-number reads as
the one that the word `NaN` gives (`readValue_float`). A finite number other than a zero is
written as one of four layouts of its shortest digits (`layoutNumeral`): a whole number with
`.0`, digits with a point inside, `0.` and zeros before the digits, or scientific form.
-/

namespace PhpCompletion.Binary64.FiniteNonzero

variable {x : Binary64} (hx : x.FiniteNonzero)
include hx

theorem isNaN_false : x.isNaN = false := by
  simp [Binary64.isNaN, show x.biased ≠ 2047 by have := hx.finite; omega]

theorem isInfinite_false : x.isInfinite = false := by
  simp [Binary64.isInfinite, show x.biased ≠ 2047 by have := hx.finite; omega]

theorem isZero_false : x.isZero = false := by
  have := hx.nonzero
  simp only [Binary64.isZero, Bool.and_eq_false_iff, beq_eq_false_iff_ne, ne_eq]
  omega

end PhpCompletion.Binary64.FiniteNonzero

namespace PhpCompletion.Json

/-! ## Numbers at the front of the text -/

theorem readValue_number {s : List Nat} {c : Nat} {r : List Nat} (hs : s = c :: r)
    (hc : 48 ≤ c ∧ c ≤ 57 ∨ c = 45 ∧ ∃ c' r', r = c' :: r' ∧ 48 ≤ c' ∧ c' ≤ 57)
    (fuel room pos : Nat) :
    readValue (fuel + 1) room s pos =
      (readNumber s pos).getD (.error (.invalid .expectingValue pos)) := by
  subst hs
  rcases hc with ⟨hc1, hc2⟩ | ⟨rfl, c', r', rfl, hc1, hc2⟩
  · have miss : ¬110 = c ∧ ¬116 = c ∧ ¬102 = c ∧ ¬78 = c ∧ ¬73 = c ∧ ¬45 = c := by omega
    have other : c ≠ 34 ∧ c ≠ 123 ∧ c ≠ 91 := by omega
    simp [readValue, startsWith, List.isPrefixOf, miss, other]
    cases readNumber (c :: r) pos <;> rfl
  · have miss : ¬73 = c' := by omega
    simp [readValue, startsWith, List.isPrefixOf, miss]
    cases readNumber (45 :: c' :: r') pos <;> rfl

theorem readValue_numeral {t : Numeral} (ht : t.Valid) {rest : List Nat} (hrest : Ends rest)
    (fuel room pos : Nat) :
    readValue (fuel + 1) room (t.points ++ rest) pos =
      t.value.map fun v => (v, rest, pos + t.points.length) := by
  obtain ⟨c, ds, hw, hc1, hc2⟩ := ht.whole_head
  have front : t.points ++ rest =
      (if t.neg then [45] else []) ++ c :: (ds ++ t.afterWhole rest) := by
    rw [Numeral.points_append, hw, List.cons_append]
  rw [readValue_number (c := if t.neg then 45 else c)
    (r := if t.neg then c :: (ds ++ t.afterWhole rest) else ds ++ t.afterWhole rest)
    (by rw [front]; cases t.neg <;> rfl) (by cases t.neg <;> simp [hc1, hc2]),
    readNumber_numeral ht hrest pos, Option.getD_some]

theorem readValue_int {n : Int} (h : Decimal.digitCount n.natAbs ≤ digitLimit)
    {rest : List Nat} (hrest : Ends rest) (fuel room pos : Nat) :
    ∃ p, readValue (fuel + 1) room ((Text.ofInt n).points ++ rest) pos = .ok (.int n, rest, p) := by
  rw [ofInt_points, readValue_numeral (intNumeral_valid n) hrest, intNumeral_value h]
  exact ⟨_, rfl⟩

/-! ## The layouts of a binary64 number -/

/-- The numeral the writer lays out for the digits `d` and exponent `g` of a number, before
its sign. -/
def layoutNumeral (d : Nat) (g : Int) : Numeral :=
  let sci : Int := g + Decimal.digitCount d - 1
  if -4 ≤ sci ∧ sci ≤ 15 then
    if 0 ≤ g then ⟨false, decimalPoints d ++ List.replicate g.toNat 48, [48], none⟩
    else if 0 ≤ sci then
      ⟨false, (decimalPoints d).take (sci + 1).toNat, (decimalPoints d).drop (sci + 1).toNat,
        none⟩
    else ⟨false, [48], List.replicate (-sci - 1).toNat 48 ++ decimalPoints d, none⟩
  else
    ⟨false, (decimalPoints d).take 1, (decimalPoints d).drop 1,
      some (decide (sci < 0),
        List.replicate (2 - Decimal.digitCount sci.natAbs) 48 ++ decimalPoints sci.natAbs)⟩

theorem layoutNumeral_neg (d : Nat) (g : Int) : (layoutNumeral d g).neg = false := by
  unfold layoutNumeral
  dsimp only
  split_ifs <;> rfl

theorem Numeral.points_signed {t : Numeral} (ht : t.neg = false) (neg : Bool) :
    ({ t with neg := neg } : Numeral).points = (if neg then [45] else []) ++ t.points := by
  simp [Numeral.points, ht]

theorem Numeral.Valid.points_head {t : Numeral} (ht : t.Valid) :
    ∃ c r, t.points = c :: r ∧ 45 ≤ c ∧ c ≤ 57 := by
  obtain ⟨c, ds, hw, hc1, hc2⟩ := ht.whole_head
  have front := Numeral.points_append t []
  rw [List.append_nil, hw] at front
  cases hneg : t.neg
  · exact ⟨c, _, by simpa [hneg] using front, by omega, hc2⟩
  · exact ⟨45, _, by simpa [hneg] using front, le_refl _, by omega⟩

theorem ascii_layoutDigits (d : Nat) (g : Int) :
    ascii (Decimal.layoutDigits numberLayout d g) = (layoutNumeral d g).points := by
  obtain ⟨c, ds, hcds⟩ : ∃ c ds, Nat.toDigits 10 d = c :: ds := by
    cases h : Nat.toDigits 10 d with
    | nil => exact absurd h Nat.toDigits_ne_nil
    | cons c ds => exact ⟨c, ds, rfl⟩
  have count : ∀ n, (Nat.toDigits 10 n).length = Decimal.digitCount n := fun _ => rfl
  have points : ∀ n, decimalPoints n = (Nat.toDigits 10 n).map Char.toNat := fun _ => rfl
  unfold Decimal.layoutDigits layoutNumeral
  simp only [numberLayout, Decimal.digitsOf, count, if_true]
  by_cases range : -4 ≤ g + Decimal.digitCount d - 1 ∧ g + Decimal.digitCount d - 1 ≤ 15
  · rw [if_pos range, if_pos range]
    by_cases whole : 0 ≤ g
    · rw [if_pos whole, if_pos whole]
      simp [Numeral.points, points, Numeral.expPoints, ascii]
    · rw [if_neg whole, if_neg whole]
      by_cases point : 0 ≤ g + Decimal.digitCount d - 1
      · rw [if_pos point, if_pos point]
        have inside : (g + Decimal.digitCount d).toNat < Decimal.digitCount d := by omega
        simp [Numeral.points, points, Numeral.expPoints, ascii, count, inside]
      · rw [if_neg point, if_neg point]
        simp [Numeral.points, points, Numeral.expPoints, ascii]
  · rw [if_neg range, if_neg range, hcds]
    cases ds with
    | nil => by_cases below : g + Decimal.digitCount d < 1 <;>
        simp [Numeral.points, points, hcds, Numeral.expPoints, ascii, below]
    | cons c' ds => by_cases below : g + Decimal.digitCount d < 1 <;>
        simp [Numeral.points, points, hcds, Numeral.expPoints, ascii, below]

theorem layoutNumeral_writes {d : Nat} (hd : 0 < d) (neg : Bool) (g : Int) :
    ({ layoutNumeral d g with neg := neg } : Numeral).Valid ∧
      ({ layoutNumeral d g with neg := neg } : Numeral).Writes d g := by
  have len := decimalPoints_length d
  unfold layoutNumeral
  simp only
  by_cases range : -4 ≤ g + Decimal.digitCount d - 1 ∧ g + Decimal.digitCount d - 1 ≤ 15
  · rw [if_pos range]
    by_cases whole : 0 ≤ g
    · rw [if_pos whole]
      have written := writes_whole hd neg g.toNat
      rwa [Int.toNat_of_nonneg whole] at written
    · rw [if_neg whole]
      by_cases point : 0 ≤ g + Decimal.digitCount d - 1
      · rw [if_pos point]
        exact writes_point hd neg (by omega) (by omega) (by omega)
      · rw [if_neg point]
        exact writes_small hd neg _ (by omega)
  · rw [if_neg range]
    obtain ⟨c, ds, hcds, -⟩ := decimalPoints_lead hd
    have split : (decimalPoints d).take 1 = [c] ∧ (decimalPoints d).drop 1 = ds := by
      simp [hcds]
    rw [split.1, split.2]
    have ds_len : (decimalPoints d).length = ds.length + 1 := by simp [hcds]
    exact writes_scientific hd neg hcds _ (by omega)

/-! ## Binary64 numbers -/

/-- A not-a-number as reading `NaN` gives it; other numbers as they are. -/
def canonicalNaN (x : Binary64) : Binary64 := if x.isNaN then Binary64.nan else x

theorem ascii_render_finite {x : Binary64} (hx : x.FiniteNonzero) {d : Nat} {g : Int}
    (hs : Decimal.shortestOf x = (d, g)) :
    ascii (Decimal.render numberLayout x) =
      ({ layoutNumeral d g with neg := x.negative } : Numeral).points := by
  -- the digits stay named throughout, so that no step tries to compute them
  have rendered : Decimal.render numberLayout x =
      (if x.negative then "-" else "") ++ Decimal.layoutDigits numberLayout d g := by
    unfold Decimal.render
    rw [hs]
    simp only [hx.isNaN_false, hx.isInfinite_false, hx.isZero_false, Bool.false_eq_true,
      if_false]
  rw [rendered, ascii_append, Numeral.points_signed (layoutNumeral_neg _ _), ← ascii_layoutDigits]
  cases x.negative <;> simp [ascii]

theorem render_numeral {x : Binary64} (hn : x.isNaN = false) (hi : x.isInfinite = false) :
    ∃ t : Numeral, t.Valid ∧ ascii (Decimal.render numberLayout x) = t.points ∧
      t.value = .ok (.float x) := by
  by_cases hz : x.isZero
  · refine ⟨⟨x.negative, [48], [48], none⟩, ⟨.inl rfl, by simp [isDigit], fun _ _ h => by cases h⟩,
      ?_, ?_⟩
    · cases hneg : x.negative <;>
        simp [Decimal.render, hn, hi, hz, hneg, numberLayout, Numeral.points, Numeral.expPoints,
          ascii]
    · simp only [Numeral.value, digitsValue, Decimal.nearest]
      simpa using (Binary64.eq_zero_of_isZero hz).symm
  · have hx := Binary64.finiteNonzero_of (by simpa using hn) (by simpa using hi)
      (by simpa using hz)
    obtain ⟨pos, -⟩ := Decimal.shortestOf_rounds hx
    have writes := layoutNumeral_writes pos x.negative (Decimal.shortestOf x).2
    rcases hs : Decimal.shortestOf x with ⟨d, g⟩
    rw [hs] at writes
    exact ⟨_, writes.1, ascii_render_finite hx hs,
      Numeral.value_of_writes hx rfl (by rw [hs]; exact writes.2)⟩

/-- Every binary64 number reads back as itself, a not-a-number as the one `NaN` gives. -/
theorem readValue_float (x : Binary64) {rest : List Nat} (hrest : Ends rest)
    (fuel room pos : Nat) :
    ∃ p, readValue (fuel + 1) room (ascii (Decimal.render numberLayout x) ++ rest) pos =
      .ok (.float (canonicalNaN x), rest, p) := by
  by_cases hn : x.isNaN
  · simp [Decimal.render, hn, numberLayout, canonicalNaN, readValue, startsWith, List.isPrefixOf,
      ascii]
  by_cases hi : x.isInfinite
  · have same := Binary64.eq_infinity_of_isInfinite hi
    cases hneg : x.negative
    · simp [Decimal.render, hn, hi, hneg, numberLayout, canonicalNaN, readValue, startsWith,
        List.isPrefixOf, ascii]
      rw [same, hneg]
    · simp [Decimal.render, hn, hi, hneg, numberLayout, canonicalNaN, readValue, startsWith,
        List.isPrefixOf, ascii]
      rw [same, hneg]
  obtain ⟨t, valid, written, value⟩ := render_numeral (by simpa using hn) (by simpa using hi)
  have kept : canonicalNaN x = x := by simp [canonicalNaN, hn]
  rw [written, readValue_numeral valid hrest, value, kept]
  exact ⟨_, rfl⟩

theorem ascii_render_head (x : Binary64) :
    ∃ c r, ascii (Decimal.render numberLayout x) = c :: r ∧ 45 ≤ c ∧ c ≤ 78 := by
  by_cases hn : x.isNaN
  · simp [Decimal.render, hn, numberLayout, ascii]
  by_cases hi : x.isInfinite
  · cases hneg : x.negative <;> simp [Decimal.render, hn, hi, hneg, numberLayout, ascii]
  obtain ⟨t, valid, written, -⟩ := render_numeral (by simpa using hn) (by simpa using hi)
  obtain ⟨c, r, ht, hc1, hc2⟩ := valid.points_head
  exact ⟨c, r, written.trans ht, hc1, by omega⟩

/-! ## Words -/

theorem readValue_null {rest : List Nat} (fuel room pos : Nat) :
    readValue (fuel + 1) room (ascii "null" ++ rest) pos = .ok (.null, rest, pos + 4) := by
  simp [readValue, startsWith, ascii, List.isPrefixOf]

theorem readValue_bool (b : Bool) {rest : List Nat} (fuel room pos : Nat) :
    ∃ p, readValue (fuel + 1) room (ascii (if b then "true" else "false") ++ rest) pos =
      .ok (.bool b, rest, p) := by
  cases b <;> simp [readValue, startsWith, ascii, List.isPrefixOf]

end PhpCompletion.Json
