/-!
# Binary64 numbers

A binary64 floating-point number is kept as its 64-bit pattern, so numbers compare by pattern
and every function of this library that reads one is a function of the bits: a finite nonzero
number is `mantissa * 2 ^ exponent`, with the sign apart. Arithmetic is exact arithmetic on these
fields followed by one rounding, as the binary64 operations define it.
-/

namespace PhpCompletion

/-- A binary64 floating-point number, kept as its bit pattern. -/
structure Binary64 where
  bits : UInt64
  deriving DecidableEq, Inhabited, Repr

namespace Binary64

def negative (x : Binary64) : Bool := x.bits >>> 63 == 1

def biased (x : Binary64) : Nat := ((x.bits >>> 52) &&& 0x7FF).toNat

def fraction (x : Binary64) : Nat := (x.bits &&& 0xFFFFFFFFFFFFF).toNat

def isNaN (x : Binary64) : Bool := x.biased == 2047 && x.fraction != 0

def isInfinite (x : Binary64) : Bool := x.biased == 2047 && x.fraction == 0

def isZero (x : Binary64) : Bool := x.biased == 0 && x.fraction == 0

def hiddenBit : Nat := 0x10000000000000

/-- The integer mantissa of a finite number, with the hidden bit of normal numbers. -/
def mantissa (x : Binary64) : Nat := if x.biased = 0 then x.fraction else x.fraction + hiddenBit

/-- The exponent of the mantissa's last bit. -/
def exponent (x : Binary64) : Int := if x.biased = 0 then -1074 else (x.biased : Int) - 1075

def ofFields (neg : Bool) (biased fraction : Nat) : Binary64 :=
  ⟨UInt64.ofNat ((if neg then 0x8000000000000000 else 0) + (biased % 2048) * 0x10000000000000 +
    fraction % 0x10000000000000)⟩

def zero (neg : Bool) : Binary64 := ofFields neg 0 0

def infinity (neg : Bool) : Binary64 := ofFields neg 2047 0

def nan : Binary64 := ofFields false 2047 0x8000000000000

/-- The order of numbers, `x < y`: no number is below or above a NaN and the two zeros are
equal; between numbers of one sign the order is that of the bit patterns, reversed for the
negative ones. -/
def lt (x y : Binary64) : Bool :=
  if x.isNaN || y.isNaN || (x.isZero && y.isZero) then false
  else match x.negative, y.negative with
    | false, false => x.bits < y.bits
    | true, true => y.bits < x.bits
    | true, false => true
    | false, true => false

def truncate (x : Binary64) : Int :=
  let m := x.mantissa
  let e := x.exponent
  let n : Nat := if 0 ≤ e then m * Nat.pow 2 e.toNat else m / Nat.pow 2 (-e).toNat
  if x.negative then -(n : Int) else n

/-- The integer a finite number equals, if it has no fractional part: its last mantissa bit
weighs at least one, or the bits below one are zero. -/
def integral? (x : Binary64) : Option Int :=
  if x.biased = 2047 then none
  else if 0 ≤ x.exponent || x.mantissa % Nat.pow 2 (-x.exponent).toNat == 0 then some x.truncate
  else none

/-- Whether a number is true in a condition: every number but the two zeros. -/
def truthy (x : Binary64) : Bool := !x.isZero

theorem ofFields_bits_lt (neg : Bool) (b f : Nat) :
    (if neg then 0x8000000000000000 else 0) + (b % 2048) * 0x10000000000000 +
      f % 0x10000000000000 < 0x10000000000000000 := by
  have h1 : b % 2048 < 2048 := Nat.mod_lt _ (by decide)
  have h2 : f % 0x10000000000000 < 0x10000000000000 := Nat.mod_lt _ (by decide)
  split <;> omega

end Binary64

end PhpCompletion
