/-!
# Numbers: powers

A number of a fixed width is held against the power of two that its bits can count up to, and a decimal is
shifted by powers of ten.
-/

namespace SurveyFlow

/-- The number of values of so many bits. A natural number fits them exactly if it is below. -/
def bitBound (bits : Nat) : Nat :=
  Nat.pow 2 bits

/-- The number that is written as a one and so many zeros. -/
def tenPower (zeros : Nat) : Nat :=
  Nat.pow 10 zeros

end SurveyFlow
