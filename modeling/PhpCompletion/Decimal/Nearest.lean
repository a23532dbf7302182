import PhpCompletion.Decimal.Shortest

/-!
# Rounding to the nearest: binary64 numbers and fixed places

A decimal `d * 10 ^ g` is read as the binary64 number nearest to it, a tie going to the even
mantissa; a value too large for the format reads as infinity, one below half the least
subnormal as zero. The quotient and remainder are exact natural numbers: the mantissa is the
quotient of the value by a power of two chosen so that it has 53 bits, or fewer below the
normal range. Dividing a finite number by a positive integer is rounded the same way, from the
exact ratio of its mantissa and the divisor.
-/

namespace PhpCompletion.Decimal

/-- `⌊num * 2 ^ -e / den⌋` and whether the remainder is more, less or exactly half. -/
def scaledQuotient (num den : Nat) (e : Int) : Nat × Ordering :=
  let a := num * Nat.pow 2 (pos (-e))
  let b := den * Nat.pow 2 (pos e)
  (a / b, compare (2 * (a % b)) b)

def fitExponent (num den : Nat) : Nat → Int → Int
  | 0, e => e
  | fuel + 1, e =>
      let q := (scaledQuotient num den e).1
      if 2 * Binary64.hiddenBit ≤ q then fitExponent num den fuel (e + 1)
      else if q < Binary64.hiddenBit then fitExponent num den fuel (e - 1)
      else e

/-- The binary64 number nearest to `num / den` (both positive), with the given sign. -/
def nearestRatio (neg : Bool) (num den : Nat) : Binary64 :=
  let e0 : Int := (Nat.log2 num : Int) - Nat.log2 den - 52
  let e1 := max (fitExponent num den 8 e0) (-1074)
  let (q, half) := scaledQuotient num den e1
  let q' := match half with
    | .gt => q + 1
    | .eq => if q % 2 = 1 then q + 1 else q
    | .lt => q
  let (m, e) := if q' = 2 * Binary64.hiddenBit then (Binary64.hiddenBit, e1 + 1) else (q', e1)
  if m < Binary64.hiddenBit then Binary64.ofFields neg 0 m
  else if 2047 ≤ e + 1075 then Binary64.infinity neg
  else Binary64.ofFields neg (e + 1075).toNat (m - Binary64.hiddenBit)

def nearest (neg : Bool) (d : Nat) (g : Int) : Binary64 :=
  if d = 0 then Binary64.zero neg
  else
    let size : Int := (digitCount d : Int) + g
    if 310 < size then Binary64.infinity neg
    else if size < -330 then Binary64.zero neg
    else nearestRatio neg (d * Nat.pow 10 (pos g)) (Nat.pow 10 (pos (-g)))

/-- The binary64 number nearest to `x / den`, for a finite `x` and a positive `den`: the
division of binary64 numbers, rounded once. A zero stays the zero of its sign. -/
def quotient (x : Binary64) (den : Nat) : Binary64 :=
  if x.isZero then x
  else nearestRatio x.negative (x.mantissa * Nat.pow 2 (pos x.exponent))
    (den * Nat.pow 2 (pos (-x.exponent)))

def ofInt? (i : Int) : Option Binary64 :=
  let x := nearest (i < 0) i.natAbs 0
  if x.isInfinite then none else some x

/-! ## Fixed places

A binary64 number written with a fixed number of places after the point: the exact value of the
number, not its shortest decimal, is rounded to the nearest multiple of `10 ^ -places`, and a
tie goes to the even last digit. So `0.25` gives `0.2` with one place and `0.35`, which is a
little below `0.35` in binary, gives `0.3`.
-/

/-- `num / den` rounded to the nearest natural number, a tie to the even one. -/
def roundHalfEven (num den : Nat) : Nat :=
  let q := num / den
  match compare (2 * (num % den)) den with
  | .gt => q + 1
  | .eq => if q % 2 = 1 then q + 1 else q
  | .lt => q

def scaledRound (x : Binary64) (places : Nat) : Nat :=
  let e := x.exponent
  roundHalfEven (x.mantissa * Nat.pow 2 (pos e) * Nat.pow 10 places) (Nat.pow 2 (pos (-e)))

/-- The text of a number with `places` digits after the point. -/
def fixed (places : Nat) (x : Binary64) : String :=
  if x.isNaN then "nan"
  else if x.isInfinite then (if x.negative then "-inf" else "inf")
  else
    let n := scaledRound x places
    let ds := Nat.toDigits 10 n
    let ds := List.replicate (places + 1 - ds.length) '0' ++ ds
    let whole := ds.take (ds.length - places)
    let frac := ds.drop (ds.length - places)
    (if x.negative then "-" else "") ++ String.ofList whole ++
      (if places = 0 then "" else "." ++ String.ofList frac)

end PhpCompletion.Decimal
