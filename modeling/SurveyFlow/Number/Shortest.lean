import SurveyFlow.Number.Decimal

/-!
# Numbers: the shortest decimal of a double

Many decimals are nearest to one double. A double is written as one with the fewest digits, and of those as the one
closest to it. The decimals with a given last place are a grid; the grids are searched from the coarsest one that may
have a decimal of the double to the one on which seventeen digits stand, which always has one.
-/

namespace SurveyFlow

/-- A decimal without a sign and without zeros at its end, which are told by the exponent. -/
structure Digits where
  significand : Nat
  exponent : Int
deriving DecidableEq, Repr

/-- The double nearest to the decimal. -/
def Digits.toDouble (d : Digits) : Double :=
  Decimal.toDouble ⟨false, d.significand, d.exponent⟩

/-- The two decimals next to a size on the grid of `10 ^ exponent`, without zero: the closer one first, of two equally
close ones the even one. -/
def gridNeighbours (units : Nat) (exponent : Int) : Digits × Digits :=
  let (num, den) := match exponent with
    | .ofNat e => (units, Double.unitsOfOne * tenPower e)
    | .negSucc e => (units * tenPower (e + 1), Double.unitsOfOne)
  let near := roundHalfEven num den
  let other := if near * den ≤ num then near + 1 else near - 1
  (⟨max 1 near, exponent⟩, ⟨max 1 other, exponent⟩)

/-- The decimal of a double without a sign on the coarsest grid that has one, from that of `10 ^ exponent` on and over
at most so many finer ones. -/
def coarsestDigits (x : Double) : Nat → Int → Digits
  | 0, exponent => (gridNeighbours x.units exponent).1
  | finer + 1, exponent =>
    let (near, other) := gridNeighbours x.units exponent
    if near.toDouble = x then near
    else if other.toDouble = x then other
    else coarsestDigits x finer (exponent - 1)

/-- The place of the first digit of a size that is not zero. The smallest size has its first digit at `10 ^ -324`. -/
def leadingPlace (units : Nat) : Int :=
  (Nat.toDigits 10 (units * tenPower 324 / Double.unitsOfOne)).length - 325

/-- The shortest decimal of the size of a double that is not zero. The next power of ten above it may be one. -/
def shortestDigits (x : Double) : Digits :=
  coarsestDigits (.ofMagnitude x.magnitude) 17 (leadingPlace x.units + 1)

end SurveyFlow
