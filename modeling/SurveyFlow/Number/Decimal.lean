import SurveyFlow.Number.Rounding

/-!
# Numbers: reading decimal text

Answers and literals of numeric prompts are decimal text: an optional sign, digits with at most one point
among or beside them, and an optional exponent. `finiteDouble?` reads such a text as the double nearest to
it and refuses a text whose nearest double is infinite. Indexes and capacities are plain natural numbers
of at most 64 bits, read by `unsigned?`.
-/

namespace SurveyFlow

/-- A decimal as written: `significand * 10 ^ exponent`, negated where `negative`. -/
structure Decimal where
  negative : Bool
  significand : Nat
  exponent : Int
deriving DecidableEq, Repr

/-- The number that a run of ASCII digits denotes. -/
def digitsValue (digits : List Char) : Nat :=
  digits.foldl (fun n d => 10 * n + (d.toNat - '0'.toNat)) 0

/-- The leading sign, true for a minus, and what follows it. -/
def splitSign : List Char → Bool × List Char
  | '-' :: rest => (true, rest)
  | '+' :: rest => (false, rest)
  | cs => (false, cs)

/-- The exponent written by the characters after a significand: none at all, or `e` with an optional sign
and at least one digit. -/
def exponent? : List Char → Option Int
  | [] => some 0
  | c :: rest =>
    if c = 'e' ∨ c = 'E' then
      let (negative, digits) := splitSign rest
      if digits ≠ [] ∧ digits.all Char.isDigit then
        some (if negative then -(digitsValue digits : Int) else digitsValue digits)
      else none
    else none

/-- Reads a decimal. The point needs a digit on one side only. -/
def Decimal.ofText? (text : String) : Option Decimal :=
  let (negative, unsigned) := splitSign text.toList
  let whole := unsigned.takeWhile Char.isDigit
  let (fraction, rest) := match unsigned.dropWhile Char.isDigit with
    | '.' :: rest => (rest.takeWhile Char.isDigit, rest.dropWhile Char.isDigit)
    | rest => ([], rest)
  if whole = [] ∧ fraction = [] then none
  else (exponent? rest).map fun exponent =>
    ⟨negative, digitsValue (whole ++ fraction), exponent - fraction.length⟩

/-- The double nearest to a decimal. The test of the magnitude keeps absurd exponents from being computed:
`10 ^ 310` is above every double and `10 ^ -330` is below half of the smallest. -/
def Decimal.toDouble (d : Decimal) : Double :=
  let magnitude := d.exponent + (Nat.toDigits 10 d.significand).length
  let size :=
    if d.significand = 0 ∨ magnitude < -330 then .zero
    else if 310 < magnitude then .infinity
    else match d.exponent with
      | .ofNat e => nearestDouble (d.significand * tenPower e) 1
      | .negSucc e => nearestDouble d.significand (tenPower (e + 1))
  size.negateIf d.negative

/-- The finite double that a text denotes. -/
def finiteDouble? (text : String) : Option Double :=
  (Decimal.ofText? text).map Decimal.toDouble |>.filter Double.isFinite

/-- The natural number below `2 ^ 64` that a text denotes: digits after an optional plus. -/
def unsigned? (text : String) : Option Nat :=
  let digits := match text.toList with
    | '+' :: rest => rest
    | cs => cs
  if digits ≠ [] ∧ digits.all Char.isDigit ∧ digitsValue digits < bitBound 64 then some (digitsValue digits)
  else none

end SurveyFlow
