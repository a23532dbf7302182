import PhpCompletion.Binary64

/-!
# Shortest decimal digits

The decimal written for a finite positive binary64 number is the one with the fewest
significant digits that reads back as the same number, and of those the nearest to it. A
decimal reads back when it lies in the rounding interval of the number: halfway to each binary
neighbour, the ends included exactly when the mantissa is even (a tie is read to the even
mantissa). The lower neighbour of a power of two is twice as close as the upper one.

The search tries 1, 2, …, 17 digits. If some decimal with `n` digits lies in the interval, so
does one of the two neighbours of the number on the grid of `n`-digit decimals, so only those two
are tested; of two hits the nearer wins, an exact tie the even one. All comparisons are exact
products of natural numbers.
-/

namespace PhpCompletion.Decimal

def pos (i : Int) : Nat := i.toNat

def compareScaled (d : Nat) (k : Int) (x : Nat) (p : Int) : Ordering :=
  compare (d * Nat.pow 10 (pos k) * Nat.pow 2 (pos (-p))) (x * Nat.pow 2 (pos p) * Nat.pow 10 (pos (-k)))

def digitCount (n : Nat) : Nat := (Nat.toDigits 10 n).length

/-- The exponent `k` with `10 ^ k ≤ m * 2 ^ e < 10 ^ (k + 1)`, for `0 < m`. -/
def decimalExponent (m : Nat) (e : Int) : Int :=
  let scaled := m * Nat.pow 2 (pos e) * Nat.pow 10 400 / Nat.pow 2 (pos (-e))
  (digitCount scaled : Int) - 1 - 400

/-- The rounding interval of `m * 2 ^ e`, in units of `2 ^ (e - 2)`: its lower end, the number
itself and its upper end. -/
structure Interval where
  low : Nat
  mid : Nat
  high : Nat
  closed : Bool

/-- The rounding interval of a finite positive number with mantissa `m`; `boundary` says the
lower neighbour is twice as close. -/
def interval (m : Nat) (boundary : Bool) : Interval :=
  ⟨if boundary then 4 * m - 1 else 4 * m - 2, 4 * m, 4 * m + 2, m % 2 == 0⟩

def aboveLow (i : Interval) (p : Int) (d : Nat) (k : Int) : Bool :=
  match compareScaled d k i.low p with
  | .gt => true
  | .eq => i.closed
  | .lt => false

def belowHigh (i : Interval) (p : Int) (d : Nat) (k : Int) : Bool :=
  match compareScaled d k i.high p with
  | .lt => true
  | .eq => i.closed
  | .gt => false

/-- The digits of a hit on the grid of `n` significant digits, if there is one. -/
def gridHit (m : Nat) (e : Int) (i : Interval) (k : Int) (n : Nat) : Option (Nat × Int) :=
  let g : Int := k - (n : Int) + 1
  let p := e - 2
  let num := m * Nat.pow 2 (pos e) * Nat.pow 10 (pos (-g))
  let den := Nat.pow 2 (pos (-e)) * Nat.pow 10 (pos g)
  let q := num / den
  if num % den = 0 then some (q, g)
  else
    let lowIn := aboveLow i p q g
    let highIn := belowHigh i p (q + 1) g
    if lowIn && highIn then
      match compareScaled (2 * q + 1) g (8 * m) p with
      | .gt => some (q, g)
      | .lt => some (q + 1, g)
      | .eq => if q % 2 = 0 then some (q, g) else some (q + 1, g)
    else if lowIn then some (q, g)
    else if highIn then some (q + 1, g)
    else none

def stripZeros : Nat → Nat × Int → Nat × Int
  | 0, r => r
  | fuel + 1, (d, g) => if d ≠ 0 ∧ d % 10 = 0 then stripZeros fuel (d / 10, g + 1) else (d, g)

def searchGrids (m : Nat) (e : Int) (i : Interval) (k : Int) : Nat → Nat → Option (Nat × Int)
  | 0, _ => none
  | fuel + 1, n =>
      match gridHit m e i k n with
      | some r => some r
      | none => searchGrids m e i k fuel (n + 1)

/-- The shortest digits `d` and exponent `g` with `d * 10 ^ g` reading back as the finite
positive number `m * 2 ^ e`; `d` has no trailing zero. -/
def shortest (m : Nat) (e : Int) (boundary : Bool) : Nat × Int :=
  stripZeros 20 ((searchGrids m e (interval m boundary) (decimalExponent m e) 17 1).getD (m, 0))

def shortestOf (x : Binary64) : Nat × Int :=
  shortest x.mantissa x.exponent (x.fraction == 0 && 1 < x.biased)

end PhpCompletion.Decimal
