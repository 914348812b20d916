import SurveyFlow.Number.Double

/-!
# Numbers: the double nearest to a ratio

Reading a decimal exactly means choosing, for a ratio of two natural numbers, the double next to it. The
ratio is scaled by a power of two until its whole part has the 53 bits of a significand, or until the
smallest exponent is reached, and is then rounded once, a tie going to the even neighbour. Arithmetic on
doubles is the same: the exact result is a ratio of their units, and is rounded once.
-/

namespace SurveyFlow

/-- The natural number nearest to `num / den`; of two equally near ones the even one. -/
def roundHalfEven (num den : Nat) : Nat :=
  let whole := num / den
  let rest := num % den
  if 2 * rest < den then whole
  else if den < 2 * rest then whole + 1
  else whole + whole % 2

/-- Rounding is off by at most half a unit. -/
theorem roundHalfEven_near {num den : Nat} (h : 0 < den) :
    2 * num ≤ 2 * (den * roundHalfEven num den) + den ∧
      2 * (den * roundHalfEven num den) ≤ 2 * num + den := by
  have split := Nat.div_add_mod num den
  have small := Nat.mod_lt num h
  simp only [roundHalfEven]
  split
  · omega
  · split
    · rw [Nat.mul_add]; omega
    · rcases Nat.mod_two_eq_zero_or_one (num / den) with even | odd
      · rw [even, Nat.add_zero]; omega
      · rw [odd, Nat.mul_add]; omega

/-- The numerator and denominator of `num / den` divided by `2 ^ shift`. -/
def scaleDown (num den : Nat) : Int → Nat × Nat
  | .ofNat shift => (num, den * bitBound shift)
  | .negSucc shift => (num * bitBound (shift + 1), den)

/-- The exponent of the last bit of a double near `num / den`: 52 below the ratio's leading bit, but never
below that of the smallest double. -/
def lastBitExponent (num den : Nat) : Int :=
  let guess : Int := (num.log2 : Int) - (den.log2 : Int) - 52
  let (n, d) := scaleDown num den guess
  max (if n / d < bitBound 52 then guess - 1 else guess) (-1074)

/-- The double nearest to `num / den`, ties to even; infinite where the ratio is out of range. The leading
bit of the significand counts as one more of the exponent, so the two are joined by addition, and it does no
harm if rounding has made the significand a bit longer. -/
def nearestDouble (num den : Nat) : Double :=
  if num = 0 then .zero
  else
    let exponent := lastBitExponent num den
    let (n, d) := scaleDown num den exponent
    .ofMagnitude (min ((exponent + 1074).toNat * bitBound 52 + roundHalfEven n d) Double.infiniteMagnitude)

/-! ## Arithmetic -/

namespace Double

/-- The product of the sizes of two finite doubles. -/
def product (x y : Double) : Double :=
  nearestDouble (x.units * y.units) (unitsOfOne * unitsOfOne)

/-- The quotient of the sizes of two finite doubles. -/
def quotient (x y : Double) : Double :=
  nearestDouble x.units y.units

/-- The distance of two finite doubles. -/
def distance (x y : Double) : Double :=
  nearestDouble (x.signedUnits - y.signedUnits).natAbs unitsOfOne

theorem distance_self (x : Double) : x.distance x = zero := by
  simp [distance, nearestDouble]

theorem distance_comm (x y : Double) : x.distance y = y.distance x := by
  rw [distance, distance, ← Int.natAbs_neg, Int.neg_sub]

end Double

end SurveyFlow
