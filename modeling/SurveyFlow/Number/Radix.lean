/-!
# Numbers: digits in a radix

Escapes and the integers of survey text are also written in radix 16, 8 and 2. Letters of both cases are
digits above nine.
-/

namespace SurveyFlow

/-- The value of a digit in a radix of at most 16. -/
def digitIn? (radix : Nat) (c : Char) : Option Nat :=
  let value? :=
    if c.isDigit then some (c.toNat - '0'.toNat)
    else if 'a' ≤ c ∧ c ≤ 'f' then some (c.toNat - 'a'.toNat + 10)
    else if 'A' ≤ c ∧ c ≤ 'F' then some (c.toNat - 'A'.toNat + 10)
    else none
  value?.filter (· < radix)

/-- The number that digits denote in a radix; nothing if there are none or one is no digit. -/
def radixValue? (radix : Nat) (digits : List Char) : Option Nat :=
  if digits = [] then none
  else digits.foldlM (fun n c => (digitIn? radix c).map (radix * n + ·)) 0

end SurveyFlow
