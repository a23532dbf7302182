import PhpCompletion.Json.Reader
import PhpCompletion.Json.Writer
import PhpCompletion.Proofs.Decimal.Shortest

/-! # Reading written numbers back

A number in JSON text is a sign, whole digits, fraction digits and a signed exponent: the
shape `Numeral`. The reader takes a number apart in stages (`readNumber_eq`), so a well-formed
numeral reads as the integer or the nearest binary64 number of its digits
(`readNumber_numeral`). Every integer is written as the numeral of its digits, and every finite
binary64 number as a numeral whose value is the number itself, bit for bit.
-/

namespace PhpCompletion.Json

/-! ## The stages of reading a number -/

def signOf (s : List Nat) : Bool × List Nat :=
  match s with
  | 45 :: r => (true, r)
  | _ => (false, s)

def wholeOf (s : List Nat) : Option (List Nat) :=
  match s with
  | 48 :: _ => some [48]
  | c :: r => if 49 ≤ c ∧ c ≤ 57 then some (c :: digitRun r) else none
  | [] => none

def fracOf (s : List Nat) : List Nat :=
  match s with
  | 46 :: d :: r => if isDigit d then d :: digitRun r else []
  | _ => []

def expSignOf (r : List Nat) : Bool × List Nat × Nat :=
  match r with
  | 45 :: r' => (true, r', 1)
  | 43 :: r' => (false, r', 1)
  | _ => (false, r, 0)

def expOf (s : List Nat) : Option (Bool × List Nat × Nat) :=
  match s with
  | e :: r =>
      if e = 101 ∨ e = 69 then
        let (eneg, r1, signLen) := expSignOf r
        let eds := digitRun r1
        if eds.isEmpty then none else some (eneg, eds, 1 + signLen + eds.length)
      else none
  | [] => none

/-- What the reader makes of a number once its sign and whole digits `ids` are taken, `s2`
being the text after them. -/
def numberAfter (neg : Bool) (ids s2 : List Nat) (pos : Nat) :
    Except ReadError (Json × List Nat × Nat) :=
  let fracDigits := fracOf s2
  let s3 := if fracDigits.isEmpty then s2 else s2.drop (1 + fracDigits.length)
  let expPart := expOf s3
  let s4 := match expPart with
    | some (_, _, n) => s3.drop n
    | none => s3
  let used := (if neg then 1 else 0) + ids.length +
    (if fracDigits.isEmpty then 0 else 1 + fracDigits.length) +
    (match expPart with | some (_, _, n) => n | none => 0)
  if fracDigits.isEmpty ∧ expPart.isNone then
    if digitLimit < ids.length then .error (.tooManyDigits ids.length)
    else
      let n : Int := digitsValue ids
      .ok (.int (if neg then -n else n), s4, pos + used)
  else
    let mant := digitsValue (ids ++ fracDigits)
    let e : Int := match expPart with
      | some (eneg, eds, _) => if eneg then -(digitsValue eds : Int) else digitsValue eds
      | none => 0
    .ok (.float (Decimal.nearest neg mant (e - fracDigits.length)), s4, pos + used)

/-- Reading a number is its stages one after another. -/
theorem readNumber_eq (s : List Nat) (pos : Nat) :
    readNumber s pos =
      (wholeOf (signOf s).2).map fun ids =>
        numberAfter (signOf s).1 ids ((signOf s).2.drop ids.length) pos := by
  unfold readNumber
  rfl

/-! ## Runs of digits -/

def Digits (ds : List Nat) : Prop := ∀ c ∈ ds, isDigit c = true

def NoDigit (s : List Nat) : Prop := ∀ c r, s = c :: r → isDigit c = false

/-- What may follow a written value: nothing, or a comma or a closing bracket. -/
def Ends (rest : List Nat) : Prop := ∀ c r, rest = c :: r → c = 44 ∨ c = 93 ∨ c = 125

@[simp] theorem digits_nil : Digits [] := by simp [Digits]

@[simp] theorem digits_cons {c : Nat} {ds : List Nat} :
    Digits (c :: ds) ↔ isDigit c = true ∧ Digits ds := by
  simp [Digits]

@[simp] theorem digits_append {a b : List Nat} : Digits (a ++ b) ↔ Digits a ∧ Digits b := by
  simp only [Digits, List.mem_append]
  constructor
  · intro h
    exact ⟨fun c hc => h c (.inl hc), fun c hc => h c (.inr hc)⟩
  · rintro ⟨ha, hb⟩ c (hc | hc)
    · exact ha c hc
    · exact hb c hc

@[simp] theorem digits_zeros (k : Nat) : Digits (List.replicate k 48) := by
  intro c hc
  rw [List.eq_of_mem_replicate hc]
  rfl

theorem Ends.noDigit {rest : List Nat} (h : Ends rest) : NoDigit rest := by
  intro c r hr
  rcases h c r hr with rfl | rfl | rfl <;> rfl

theorem digitRun_append {a b : List Nat} (ha : Digits a) (hb : NoDigit b) :
    digitRun (a ++ b) = a := by
  induction a with
  | nil =>
      cases b with
      | nil => rfl
      | cons c r => simp [digitRun, hb c r rfl]
  | cons c a ih =>
      rw [digits_cons] at ha
      have tail := ih ha.2
      simp only [digitRun] at tail ⊢
      simp [ha.1, tail]

theorem foldl_digits (init : Nat) (b : List Nat) :
    b.foldl (fun n d => n * 10 + (d - 48)) init = init * 10 ^ b.length + digitsValue b := by
  induction b generalizing init with
  | nil => simp [digitsValue]
  | cons d b ih =>
      simp only [List.foldl_cons, digitsValue, List.length_cons]
      rw [ih, ih (0 * 10 + (d - 48))]
      ring

theorem digitsValue_append (a b : List Nat) :
    digitsValue (a ++ b) = digitsValue a * 10 ^ b.length + digitsValue b := by
  rw [digitsValue, List.foldl_append, foldl_digits]
  rfl

@[simp] theorem digitsValue_zeros (k : Nat) : digitsValue (List.replicate k 48) = 0 := by
  induction k with
  | zero => rfl
  | succ k ih =>
      rw [List.replicate_succ', digitsValue_append, ih]
      rfl

def decimalPoints (n : Nat) : List Nat := (Nat.toDigits 10 n).map Char.toNat

theorem digitsValue_decimalPoints (n : Nat) : digitsValue (decimalPoints n) = n := by
  have same : (fun m (c : Char) => m * 10 + (c.toNat - 48)) =
      fun m c => 10 * m + (c.toNat - '0'.toNat) := by
    funext m c
    rw [Nat.mul_comm]
    rfl
  simp only [decimalPoints, digitsValue, List.foldl_map]
  rw [same]
  exact Nat.ofDigitChars_ten_toDigits

theorem decimalPoints_digits (n : Nat) : Digits (decimalPoints n) := by
  intro c hc
  obtain ⟨ch, hch, rfl⟩ := List.mem_map.mp hc
  have digit := Nat.isDigit_of_mem_toDigits (by decide) (by decide) hch
  simp only [Char.isDigit, Bool.and_eq_true, decide_eq_true_eq] at digit
  simp only [isDigit, Bool.and_eq_true, decide_eq_true_eq]
  exact ⟨digit.1, digit.2⟩

theorem decimalPoints_length (n : Nat) : (decimalPoints n).length = Decimal.digitCount n := by
  simp [decimalPoints, Decimal.digitCount]

theorem digitsValue_cons (c : Nat) (ds : List Nat) :
    digitsValue (c :: ds) = (c - 48) * 10 ^ ds.length + digitsValue ds := by
  rw [← List.singleton_append, digitsValue_append]
  simp [digitsValue]

theorem digitsValue_lt {ds : List Nat} (h : Digits ds) : digitsValue ds < 10 ^ ds.length := by
  induction ds with
  | nil => simp [digitsValue]
  | cons c ds ih =>
      rw [digits_cons] at h
      have hc : c - 48 ≤ 9 := by simp [isDigit] at h; omega
      have below := ih h.2
      rw [digitsValue_cons, List.length_cons, pow_succ]
      nlinarith

theorem decimalPoints_head {n : Nat} (hn : 0 < n) :
    ∃ c ds, decimalPoints n = c :: ds ∧ 49 ≤ c ∧ c ≤ 57 := by
  obtain ⟨c, ds, hcds⟩ := List.exists_cons_of_ne_nil
    (by simp [decimalPoints, Nat.toDigits_ne_nil] : decimalPoints n ≠ [])
  have hc : isDigit c = true := decimalPoints_digits n c (by simp [hcds])
  have hds : Digits ds := fun d hd => decimalPoints_digits n d (by simp [hcds, hd])
  refine ⟨c, ds, hcds, ?_, by simp [isDigit] at hc; omega⟩
  by_contra hzero
  have value : n = digitsValue ds := by
    have c48 : c - 48 = 0 := by omega
    rw [← digitsValue_decimalPoints n, hcds, digitsValue_cons, c48, zero_mul, zero_add]
  have hk : 0 < ds.length := by
    rcases ds with _ | ⟨d, ds⟩
    · simp [value, digitsValue] at hn
    · simp
  have short := (Nat.length_toDigits_le_iff (b := 10) (n := n) (by decide) hk).mpr
    (value ▸ digitsValue_lt hds)
  have long : (Nat.toDigits 10 n).length = ds.length + 1 := by
    rw [← List.length_map (f := Char.toNat)]
    exact congrArg List.length hcds
  omega

/-! ## Numerals -/

/-- A number as the reader takes it apart: its sign, its whole digits, its fraction digits
(empty when there is no fraction) and its exponent's sign and digits, if it has one. -/
structure Numeral where
  neg : Bool
  whole : List Nat
  frac : List Nat
  exp : Option (Bool × List Nat)

namespace Numeral

def expPoints : Option (Bool × List Nat) → List Nat
  | none => []
  | some (eneg, eds) => 101 :: (if eneg then 45 else 43) :: eds

def expValue : Option (Bool × List Nat) → Int
  | none => 0
  | some (eneg, eds) => if eneg then -(digitsValue eds : Int) else digitsValue eds

def afterWhole (t : Numeral) (rest : List Nat) : List Nat :=
  (if t.frac = [] then [] else 46 :: t.frac) ++ expPoints t.exp ++ rest

def points (t : Numeral) : List Nat :=
  (if t.neg then [45] else []) ++ t.whole ++ (if t.frac = [] then [] else 46 :: t.frac) ++
    expPoints t.exp

/-- What a numeral reads as: without fraction and exponent an integer, unless it has too many
digits, and otherwise the binary64 number nearest to its digits. -/
def value (t : Numeral) : Except ReadError Json :=
  if t.frac = [] ∧ t.exp = none then
    if digitLimit < t.whole.length then .error (.tooManyDigits t.whole.length)
    else .ok (.int (if t.neg then -(digitsValue t.whole : Int) else digitsValue t.whole))
  else
    .ok (.float (Decimal.nearest t.neg (digitsValue (t.whole ++ t.frac))
      (expValue t.exp - t.frac.length)))

/-- A numeral as JSON writes it: the whole digits are one zero or do not start with one, and
an exponent has digits. -/
structure Valid (t : Numeral) : Prop where
  whole : t.whole = [48] ∨ ∃ c ds, t.whole = c :: ds ∧ 49 ≤ c ∧ c ≤ 57 ∧ Digits ds
  frac : Digits t.frac
  exp : ∀ eneg eds, t.exp = some (eneg, eds) → eds ≠ [] ∧ Digits eds

theorem points_append (t : Numeral) (rest : List Nat) :
    t.points ++ rest = (if t.neg then [45] else []) ++ (t.whole ++ t.afterWhole rest) := by
  simp [points, afterWhole, List.append_assoc]

theorem Valid.whole_head {t : Numeral} (ht : t.Valid) :
    ∃ c ds, t.whole = c :: ds ∧ 48 ≤ c ∧ c ≤ 57 := by
  rcases ht.whole with h | ⟨c, ds, h, hc1, hc2, -⟩
  · exact ⟨48, [], h, by omega, by omega⟩
  · exact ⟨c, ds, h, by omega, hc2⟩

theorem expPoints_append_ends {t : Numeral} {rest : List Nat} (hrest : Ends rest) :
    ∀ c r, expPoints t.exp ++ rest = c :: r → c = 101 ∨ c = 44 ∨ c = 93 ∨ c = 125 := by
  intro c r h
  rcases hexp : t.exp with _ | ⟨eneg, eds⟩
  · rw [hexp, expPoints, List.nil_append] at h
    rcases hrest c r h with hc | hc | hc <;> omega
  · rw [hexp, expPoints, List.cons_append] at h
    cases h
    exact .inl rfl

theorem afterWhole_noDigit {t : Numeral} {rest : List Nat} (hrest : Ends rest) :
    NoDigit (t.afterWhole rest) := by
  intro c r h
  unfold afterWhole at h
  split at h
  · rcases expPoints_append_ends hrest c r (by simpa using h) with rfl | rfl | rfl | rfl <;> rfl
  · simp only [List.cons_append] at h
    cases h
    rfl

theorem signOf_digit {c : Nat} (hc : 48 ≤ c) (s : List Nat) : signOf (c :: s) = (false, c :: s) := by
  unfold signOf
  split
  · rename_i r h
    cases h
    omega
  · rfl

theorem signOf_points {t : Numeral} (ht : t.Valid) (s : List Nat) :
    signOf ((if t.neg then [45] else []) ++ (t.whole ++ s)) = (t.neg, t.whole ++ s) := by
  obtain ⟨c, ds, hw, hc1, -⟩ := ht.whole_head
  rw [hw]
  cases t.neg with
  | true => rfl
  | false => exact signOf_digit hc1 _

theorem wholeOf_lead {c : Nat} (hc1 : 49 ≤ c) (hc2 : c ≤ 57) (r : List Nat) :
    wholeOf (c :: r) = some (c :: digitRun r) := by
  unfold wholeOf
  split
  · rename_i r' h
    cases h
    omega
  · rename_i c' r' _ h
    cases h
    exact if_pos ⟨hc1, hc2⟩
  · rename_i h
    cases h

theorem wholeOf_points {t : Numeral} (ht : t.Valid) {rest : List Nat} (hrest : Ends rest) :
    wholeOf (t.whole ++ t.afterWhole rest) = some t.whole := by
  rcases ht.whole with hw | ⟨c, ds, hw, hc1, hc2, hds⟩
  · rw [hw]
    rfl
  · rw [hw, List.cons_append, wholeOf_lead hc1 hc2, digitRun_append hds (afterWhole_noDigit hrest)]

theorem expPoints_noDigit {t : Numeral} {rest : List Nat} (hrest : Ends rest) :
    NoDigit (expPoints t.exp ++ rest) := by
  intro c r h
  rcases expPoints_append_ends hrest c r h with rfl | rfl | rfl | rfl <;> rfl

theorem fracOf_afterWhole {t : Numeral} (ht : t.Valid) {rest : List Nat} (hrest : Ends rest) :
    fracOf (t.afterWhole rest) = t.frac := by
  unfold afterWhole
  rcases hf : t.frac with _ | ⟨d, r⟩
  · simp only [if_true, List.nil_append]
    unfold fracOf
    split
    · rename_i d r h
      rcases expPoints_append_ends hrest _ _ h with h' | h' | h' | h' <;> cases h'
    · rfl
  · have hd : Digits (d :: r) := hf ▸ ht.frac
    rw [digits_cons] at hd
    simp only [reduceCtorEq, if_false, List.cons_append, List.append_assoc, fracOf, hd.1, if_true]
    rw [digitRun_append hd.2 (expPoints_noDigit hrest)]

theorem afterFrac (t : Numeral) (rest : List Nat) :
    (if t.frac.isEmpty = true then t.afterWhole rest
      else (t.afterWhole rest).drop (1 + t.frac.length)) = expPoints t.exp ++ rest := by
  unfold afterWhole
  rcases t.frac with _ | ⟨d, r⟩
  · simp
  · simp only [reduceCtorEq, if_false, List.isEmpty_cons, Bool.false_eq_true, List.length_cons]
    rw [show 1 + (r.length + 1) = (46 :: d :: r).length by simp [Nat.add_comm],
      List.append_assoc]
    exact List.drop_left

theorem drop_exponent (x : Nat) (eds rest : List Nat) :
    (101 :: x :: (eds ++ rest)).drop (2 + eds.length) = rest := by
  rw [show 2 + eds.length = (101 :: x :: eds).length by simp; omega]
  exact List.drop_left

theorem expOf_expPoints {t : Numeral} (ht : t.Valid) {rest : List Nat} (hrest : Ends rest) :
    expOf (expPoints t.exp ++ rest) = t.exp.map fun e => (e.1, e.2, 2 + e.2.length) := by
  rcases he : t.exp with _ | ⟨eneg, eds⟩
  · rw [expPoints, List.nil_append, Option.map_none]
    rcases rest with _ | ⟨c, r⟩
    · rfl
    · have hc := hrest c r rfl
      have no : ¬(c = 101 ∨ c = 69) := by omega
      simp only [expOf, no, if_false]
  · obtain ⟨hne, hds⟩ := ht.exp eneg eds he
    have sign : expSignOf ((if eneg then 45 else 43) :: (eds ++ rest)) = (eneg, eds ++ rest, 1) := by
      cases eneg <;> rfl
    have run : digitRun (eds ++ rest) = eds := digitRun_append hds hrest.noDigit
    simp only [expPoints, List.cons_append, expOf, true_or, if_true, sign, run, Option.map_some]
    simp [hne]

end Numeral

theorem readNumber_numeral {t : Numeral} (ht : t.Valid) {rest : List Nat} (hrest : Ends rest)
    (pos : Nat) :
    readNumber (t.points ++ rest) pos =
      some (t.value.map fun v => (v, rest, pos + t.points.length)) := by
  rw [readNumber_eq, Numeral.points_append, Numeral.signOf_points ht,
    Numeral.wholeOf_points ht hrest, Option.map_some, List.drop_left]
  congr 1
  simp only [numberAfter, Numeral.fracOf_afterWhole ht hrest, Numeral.afterFrac,
    Numeral.expOf_expPoints ht hrest]
  unfold Numeral.value Numeral.points
  rcases t with ⟨neg, whole, frac, exp⟩
  rcases frac with _ | ⟨d, r⟩ <;> rcases exp with _ | ⟨eneg, eds⟩
  all_goals simp only [Numeral.expPoints, Numeral.expValue]
  all_goals simp
  · split_ifs <;> cases neg <;> simp [Except.map]
  all_goals
    simp only [Numeral.drop_exponent, Except.map]
    cases neg <;> simp <;> omega

/-! ## Written integers -/

@[simp] theorem ascii_append (s t : String) : ascii (s ++ t) = ascii s ++ ascii t := by
  simp [ascii]

@[simp] theorem ascii_ofList (l : List Char) : ascii (String.ofList l) = l.map Char.toNat := by
  simp [ascii]

theorem ofNat_points (n : Nat) : (Text.ofNat n).points = decimalPoints n := by
  simp [Text.ofNat, Text.ofString, decimalPoints, Nat.toString_eq_repr,
    Nat.repr_eq_ofList_toDigits]

def intNumeral (n : Int) : Numeral := ⟨decide (n < 0), decimalPoints n.natAbs, [], none⟩

theorem ofInt_points (n : Int) : (Text.ofInt n).points = (intNumeral n).points := by
  unfold Text.ofInt intNumeral Numeral.points
  by_cases hn : n < 0
  · simp [hn, ofNat_points, Text.ofString, Numeral.expPoints]
  · simp [hn, ofNat_points, Numeral.expPoints]

theorem decimalPoints_valid (n : Nat) :
    decimalPoints n = [48] ∨ ∃ c ds, decimalPoints n = c :: ds ∧ 49 ≤ c ∧ c ≤ 57 ∧ Digits ds := by
  rcases Nat.eq_zero_or_pos n with rfl | hn
  · exact .inl (by decide)
  · obtain ⟨c, ds, hcds, hc1, hc2⟩ := decimalPoints_head hn
    have hds : Digits ds := fun d hd => decimalPoints_digits n d (by simp [hcds, hd])
    exact .inr ⟨c, ds, hcds, hc1, hc2, hds⟩

theorem intNumeral_valid (n : Int) : (intNumeral n).Valid :=
  ⟨decimalPoints_valid n.natAbs, digits_nil, fun _ _ h => by cases h⟩

theorem intNumeral_value {n : Int} (h : Decimal.digitCount n.natAbs ≤ digitLimit) :
    (intNumeral n).value = .ok (.int n) := by
  have short : ¬digitLimit < (decimalPoints n.natAbs).length := by
    rw [decimalPoints_length]
    omega
  simp only [Numeral.value, intNumeral, and_self, if_true, short, if_false,
    digitsValue_decimalPoints]
  by_cases hn : n < 0
  · simp [hn, abs_of_neg hn]
  · simp [hn, abs_of_nonneg (not_lt.mp hn)]

/-! ## Written binary64 numbers -/

/-- A numeral worth `d * 10 ^ g` that reads as a binary64 number: it has a fraction or an
exponent, and its digits are not all zero. -/
structure Numeral.Writes (t : Numeral) (d : Nat) (g : Int) : Prop where
  decimal : t.frac ≠ [] ∨ t.exp ≠ none
  pos : 0 < digitsValue (t.whole ++ t.frac)
  worth : (digitsValue (t.whole ++ t.frac) : ℚ) * 10 ^ (Numeral.expValue t.exp - t.frac.length) =
    d * 10 ^ g

/-- A numeral that writes the shortest digits of a finite nonzero number reads as the number. -/
theorem Numeral.value_of_writes {t : Numeral} {x : Binary64} (hx : x.FiniteNonzero)
    (hneg : t.neg = x.negative) (h : t.Writes (Decimal.shortestOf x).1 (Decimal.shortestOf x).2) :
    t.value = .ok (.float x) := by
  have reads := (Decimal.shortestOf_rounds hx).2
  rw [← h.worth] at reads
  have fraction : ¬(t.frac = [] ∧ t.exp = none) := by
    rintro ⟨hf, he⟩
    rcases h.decimal with h' | h'
    · exact h' hf
    · exact h' he
  rw [Numeral.value, if_neg fraction, hneg,
    Decimal.nearest_of_rounds x.negative h.pos _ hx reads, Binary64.ofFields_fields]

section Layouts

variable {d : Nat} (hd : 0 < d) (neg : Bool)
include hd

theorem decimalPoints_lead : ∃ c ds, decimalPoints d = c :: ds ∧ 49 ≤ c ∧ c ≤ 57 ∧ Digits ds := by
  rcases decimalPoints_valid d with h | h
  · have : d = 0 := by rw [← digitsValue_decimalPoints d, h]; rfl
    omega
  · exact h

theorem writes_whole (k : Nat) :
    (⟨neg, decimalPoints d ++ List.replicate k 48, [48], none⟩ : Numeral).Valid ∧
      (⟨neg, decimalPoints d ++ List.replicate k 48, [48], none⟩ : Numeral).Writes d k := by
  obtain ⟨c, ds, hcds, hc1, hc2, hds⟩ := decimalPoints_lead hd
  have mant : digitsValue (decimalPoints d ++ List.replicate k 48 ++ [48]) = d * 10 ^ (k + 1) := by
    rw [digitsValue_append, digitsValue_append, digitsValue_decimalPoints, digitsValue_zeros]
    simp [digitsValue, pow_succ, Nat.mul_assoc]
  refine ⟨⟨.inr ⟨c, ds ++ List.replicate k 48, by simp [hcds], hc1, hc2, by simp [hds]⟩,
    by simp [isDigit], fun _ _ h => by cases h⟩, ⟨.inl (by simp), ?_, ?_⟩⟩
  · rw [mant]
    positivity
  · rw [mant]
    simp only [Numeral.expValue, List.length_singleton, Nat.cast_one, zero_sub, zpow_neg_one,
      Nat.cast_mul, Nat.cast_pow, Nat.cast_ofNat, zpow_natCast]
    rw [pow_succ]
    field_simp

theorem writes_point {w : Nat} (hw1 : 1 ≤ w) (hw2 : w < Decimal.digitCount d) {g : Int}
    (hg : (w : Int) = g + Decimal.digitCount d) :
    (⟨neg, (decimalPoints d).take w, (decimalPoints d).drop w, none⟩ : Numeral).Valid ∧
      (⟨neg, (decimalPoints d).take w, (decimalPoints d).drop w, none⟩ : Numeral).Writes d g := by
  obtain ⟨c, ds, hcds, hc1, hc2, hds⟩ := decimalPoints_lead hd
  have len := decimalPoints_length d
  have hdigits := decimalPoints_digits d
  rw [← List.take_append_drop w (decimalPoints d), digits_append] at hdigits
  refine ⟨⟨.inr ⟨c, ds.take (w - 1), ?_, hc1, hc2, ?_⟩, hdigits.2, fun _ _ h => by cases h⟩,
    ⟨.inl ?_, ?_, ?_⟩⟩
  · rw [hcds, show w = w - 1 + 1 by omega, List.take_succ_cons]
    simp
  · rw [hcds, show w = w - 1 + 1 by omega, List.take_succ_cons, digits_cons] at hdigits
    exact hdigits.1.2
  · simp [List.drop_eq_nil_iff]
    omega
  · rw [List.take_append_drop, digitsValue_decimalPoints]
    exact hd
  · rw [List.take_append_drop, digitsValue_decimalPoints, List.length_drop, len]
    simp only [Numeral.expValue]
    congr 2
    omega

theorem writes_small (z : Nat) {g : Int} (hg : (z : Int) + Decimal.digitCount d = -g) :
    (⟨neg, [48], List.replicate z 48 ++ decimalPoints d, none⟩ : Numeral).Valid ∧
      (⟨neg, [48], List.replicate z 48 ++ decimalPoints d, none⟩ : Numeral).Writes d g := by
  have mant : digitsValue ([48] ++ (List.replicate z 48 ++ decimalPoints d)) = d := by
    rw [← List.append_assoc, List.singleton_append, ← List.replicate_succ, digitsValue_append,
      digitsValue_zeros, digitsValue_decimalPoints]
    simp
  refine ⟨⟨.inl rfl, by simp [decimalPoints_digits], fun _ _ h => by cases h⟩,
    ⟨.inl ?_, ?_, ?_⟩⟩
  · have := decimalPoints_lead hd
    obtain ⟨c, ds, hcds, -⟩ := this
    simp [hcds]
  · rw [mant]
    exact hd
  · rw [mant]
    simp only [Numeral.expValue, List.length_append, List.length_replicate, decimalPoints_length]
    congr 2
    push_cast
    omega

theorem writes_scientific {c : Nat} {ds : List Nat} (hcds : decimalPoints d = c :: ds) (sci : Int)
    {g : Int} (hg : sci = g + ds.length) :
    (⟨neg, [c], ds, some (decide (sci < 0), List.replicate (2 - Decimal.digitCount sci.natAbs) 48 ++
        decimalPoints sci.natAbs)⟩ : Numeral).Valid ∧
      (⟨neg, [c], ds, some (decide (sci < 0), List.replicate (2 - Decimal.digitCount sci.natAbs) 48 ++
        decimalPoints sci.natAbs)⟩ : Numeral).Writes d g := by
  obtain ⟨c', ds', hcds', hc1, hc2, hds⟩ := decimalPoints_lead hd
  rw [hcds] at hcds'
  obtain ⟨rfl, rfl⟩ := List.cons.inj hcds'
  have expDigits : decimalPoints sci.natAbs ≠ [] := by simp [decimalPoints, Nat.toDigits_ne_nil]
  have mant : digitsValue ([c] ++ ds) = d := by
    rw [List.singleton_append, ← hcds, digitsValue_decimalPoints]
  refine ⟨⟨.inr ⟨c, [], rfl, hc1, hc2, digits_nil⟩, hds, ?_⟩, ⟨.inr (by simp), ?_, ?_⟩⟩
  · rintro eneg eds ⟨-, rfl⟩
    exact ⟨by simp [expDigits], by simp [decimalPoints_digits]⟩
  · rw [mant]
    exact hd
  · rw [mant]
    simp only [Numeral.expValue, digitsValue_append, digitsValue_zeros, zero_mul, zero_add,
      digitsValue_decimalPoints]
    congr 2
    by_cases hneg : sci < 0
    · simp [hneg, abs_of_neg hneg]
      omega
    · simp [hneg, abs_of_nonneg (not_lt.mp hneg)]
      omega

end Layouts

end PhpCompletion.Json
