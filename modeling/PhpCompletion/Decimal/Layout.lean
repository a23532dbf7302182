import PhpCompletion.Decimal.Shortest

/-!
# Laying out decimal digits

Digits `d` with exponent `g` stand for `d * 10 ^ g`. A `Layout` record holds the decisions of a
notation: the range of scientific exponents written positionally, whether a whole number keeps
a point and a zero, how many digits the exponent has at least, and the words for the
non-finite numbers.
-/

namespace PhpCompletion.Decimal

/-- The decisions of a notation for binary64 numbers. -/
structure Layout where
  /-- The least scientific exponent written positionally. -/
  lowestPositional : Int
  /-- The greatest scientific exponent written positionally. -/
  highestPositional : Int
  /-- Whether a positional whole number ends in `.0`. -/
  pointZero : Bool
  /-- The least number of exponent digits. -/
  exponentDigits : Nat
  /-- The word for not-a-number. -/
  nanWord : String
  /-- The word for positive infinity. -/
  infinityWord : String

def digitsOf (n : Nat) : List Char := Nat.toDigits 10 n

def layoutDigits (l : Layout) (d : Nat) (g : Int) : String :=
  let ds := digitsOf d
  let nd := ds.length
  let sci : Int := g + nd - 1
  if l.lowestPositional ≤ sci ∧ sci ≤ l.highestPositional then
    if 0 ≤ g then
      String.ofList (ds ++ List.replicate g.toNat '0') ++ (if l.pointZero then ".0" else "")
    else if 0 ≤ sci then
      let whole := (sci + 1).toNat
      String.ofList (ds.take whole) ++ "." ++ String.ofList (ds.drop whole)
    else
      "0." ++ String.ofList (List.replicate (-sci - 1).toNat '0' ++ ds)
  else
    let mant := match ds with
      | [] => "0"
      | [c] => String.ofList [c]
      | c :: rest => String.ofList (c :: '.' :: rest)
    let ed := digitsOf sci.natAbs
    let pad := List.replicate (l.exponentDigits - ed.length) '0'
    mant ++ "e" ++ (if sci < 0 then "-" else "+") ++ String.ofList (pad ++ ed)

/-- The text of a binary64 number in a layout. -/
def render (l : Layout) (x : Binary64) : String :=
  if x.isNaN then l.nanWord
  else if x.isInfinite then (if x.negative then "-" else "") ++ l.infinityWord
  else if x.isZero then (if x.negative then "-" else "") ++ (if l.pointZero then "0.0" else "0")
  else
    let (d, g) := shortestOf x
    (if x.negative then "-" else "") ++ layoutDigits l d g

end PhpCompletion.Decimal
