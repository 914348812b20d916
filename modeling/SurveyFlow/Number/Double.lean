import SurveyFlow.Number.Power

/-!
# Numbers: doubles

A number is a double and is kept as its 64 bits: the sign, 11 bits of exponent and 52 bits of fraction. The
bits tell apart what comparisons do not: zero has a form for each sign, and what is no number has many forms.

Every finite double is a whole multiple of the smallest one, `2 ^ -1074`, so sizes are natural numbers
(`Double.units`). The bits without the sign grow with the size, so doubles are ordered by them
(`Double.rank`).
-/

namespace SurveyFlow

/-- A double, by its bits. -/
structure Double where
  bits : UInt64
deriving DecidableEq, Repr

namespace Double

/-! ## Parts -/

/-- The bits without the sign. -/
def magnitude (x : Double) : Nat :=
  x.bits.toNat % bitBound 63

/-- The sign bit is set. -/
def isNegative (x : Double) : Bool :=
  bitBound 63 ≤ x.bits.toNat

/-- The magnitude of an infinite double: an exponent of ones only, and no fraction. -/
def infiniteMagnitude : Nat :=
  2047 * bitBound 52

/-- What is no number has a larger magnitude than what is infinite. -/
def isNaN (x : Double) : Bool :=
  infiniteMagnitude < x.magnitude

def isInfinite (x : Double) : Bool :=
  x.magnitude = infiniteMagnitude

def isFinite (x : Double) : Bool :=
  x.magnitude < infiniteMagnitude

/-- The double without a sign of the given magnitude, which is below `2 ^ 63`. -/
def ofMagnitude (magnitude : Nat) : Double :=
  ⟨magnitude.toUInt64⟩

def zero : Double := ofMagnitude 0

def infinity : Double := ofMagnitude infiniteMagnitude

/-- The double with its sign changed if `negate` says so. -/
def negateIf (negate : Bool) (x : Double) : Double :=
  if negate then ⟨x.bits + 0x8000000000000000⟩ else x

/-! ## Sizes -/

/-- How many of the smallest double, `2 ^ -1074`, the size of a finite double is. -/
def units (x : Double) : Nat :=
  let exponent := x.magnitude / bitBound 52
  let fraction := x.magnitude % bitBound 52
  if exponent = 0 then fraction else (bitBound 52 + fraction) * bitBound (exponent - 1)

/-- The units of a finite double with its sign. -/
def signedUnits (x : Double) : Int :=
  if x.isNegative then -x.units else x.units

/-- The units of the number one. -/
def unitsOfOne : Nat := bitBound 1074

/-! ## Order -/

/-- The place of a double that is a number among the others; both zeros have one place. -/
def rank (x : Double) : Int :=
  if x.isNegative then -x.magnitude else x.magnitude

/-- Less than. What is no number is less than nothing, and nothing is less than it. -/
def lt (x y : Double) : Bool :=
  !x.isNaN && !y.isNaN && x.rank < y.rank

/-- Less than or equal. -/
def le (x y : Double) : Bool :=
  !x.isNaN && !y.isNaN && x.rank ≤ y.rank

theorem lt_irrefl (x : Double) : x.lt x = false := by
  simp [lt]

/-- Of two numbers one is less than or equal to the other, or it is greater. -/
theorem le_eq_not_lt {x y : Double} (hx : x.isNaN = false) (hy : y.isNaN = false) : x.le y = !y.lt x := by
  simp [le, lt, hx, hy, ← decide_not]

end Double

end SurveyFlow
