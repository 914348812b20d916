import SurveyFlow.Condition.Error
import SurveyFlow.Condition.Value
import SurveyFlow.Number.Decimal

/-!
# Conditions: one comparison

The type of the answer decides how a literal is read and which comparators make sense. Only numbers have an
order; numbers are equal up to rounding relative to the larger of the two. A comparison with a prompt that
was not shown is false, whatever its comparator says.
-/

namespace SurveyFlow

/-- A literal read as a value of the type. An ordering comparator is refused for every type but numbers
before the literal is looked at. -/
def coerceLiteral (type : ValueType) (e : Expression) : Except EvalError TypedValue :=
  if type ≠ .number ∧ e.comparator.isOrdering then
    .error (.invalidComparison e.identifier e.comparator)
  else match type with
    | .number =>
      match finiteDouble? e.literal with
      | some x => .ok (.number x)
      | none => .error (.literalTypeMismatch e.identifier e.literal)
    | .text => .ok (.text e.literal)
    | .choice => .ok (.choice e.literal)
    | .boolean =>
      if e.literal = "true" then .ok (.boolean true)
      else if e.literal = "false" then .ok (.boolean false)
      else .error (.literalTypeMismatch e.identifier e.literal)

/-- How far apart two numbers may be and still count as equal: the larger size times `2 ^ -52`, the distance
from 1 to the next double. -/
def tolerance (a b : Double) : Double :=
  nearestDouble (max a.units b.units) (Double.unitsOfOne * bitBound 52)

/-- Equality up to one unit of rounding at the size of the larger number. Something infinite is as far from
every number as its own size allows, so it counts as equal to each. -/
def nearlyEqual (a b : Double) : Bool :=
  !a.isNaN && !b.isNaN &&
    (a.isInfinite || b.isInfinite || (a.distance b).magnitude ≤ (tolerance a b).magnitude)

theorem nearlyEqual_comm (a b : Double) : nearlyEqual a b = nearlyEqual b a := by
  rw [nearlyEqual, nearlyEqual, tolerance, tolerance, Double.distance_comm a b, Nat.max_comm a.units,
    Bool.and_comm (!a.isNaN), Bool.or_comm a.isInfinite]

/-- A number equals itself. -/
theorem nearlyEqual_self {a : Double} (h : a.isNaN = false) : nearlyEqual a a = true := by
  have : Double.zero.magnitude = 0 := rfl
  simp [nearlyEqual, h, Double.distance_self, this]

/-- Compares two numbers: equality allows for rounding, the order does not. -/
def Comparator.holdsOfNumbers (comparator : Comparator) (a b : Double) : Bool :=
  match comparator with
  | .eq => nearlyEqual a b
  | .notEq => !nearlyEqual a b
  | .lt => a.lt b
  | .gt => b.lt a
  | .lte => a.le b
  | .gte => b.le a

/-- Compares two values of a type without an order, told whether they are equal. Reading the literal has
refused the comparators that ask for one. -/
def Comparator.holdsOfEquality (comparator : Comparator) (equal : Bool) : Bool :=
  match comparator with
  | .eq => equal
  | .notEq => !equal
  | .lt | .gt | .lte | .gte => false

/-- Compares an answer with a literal read as a value of the same type. -/
def Comparator.holds (comparator : Comparator) : TypedValue → TypedValue → Bool
  | .number a, .number b => comparator.holdsOfNumbers a b
  | .text a, .text b | .choice a, .choice b => comparator.holdsOfEquality (a == b)
  | .boolean a, .boolean b => comparator.holdsOfEquality (a == b)
  | _, _ => false

/-- The value of a comparison, told what its identifier stands for. -/
def Expression.compare (e : Expression) : Resolution → Except EvalError Bool
  | .unknown => .error (.unknownIdentifier e.identifier)
  | .known .notDisplayed => .ok false
  | .known (.given value) => do
    let literal ← coerceLiteral value.type e
    return e.comparator.holds value literal

end SurveyFlow
