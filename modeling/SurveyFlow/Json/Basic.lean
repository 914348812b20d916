import SurveyFlow.Number.Rounding

/-!
# JSON values

An uploaded response is JSON. A number is an integer where it was written as one and fits 64 bits, and a
double otherwise; the two stay apart because a choice may be given by an integer only. Objects read from
text have distinct keys in the order of code points (`Json.ofMembers`).
-/

namespace SurveyFlow

/-- A JSON number. -/
inductive JsonNumber where
  /-- An integer from `-2 ^ 63` to `2 ^ 64 - 1`, written without point and exponent. -/
  | integer (value : Int)
  | double (value : Double)
deriving DecidableEq, Repr

/-- The number as a double, rounded to the nearest one. -/
def JsonNumber.toDouble : JsonNumber → Double
  | integer n => (nearestDouble n.natAbs 1).negateIf (n < 0)
  | double x => x

/-- A JSON value. -/
inductive Json where
  | null
  | bool (value : Bool)
  | number (value : JsonNumber)
  | string (value : String)
  | array (items : List Json)
  | object (members : List (String × Json))
deriving Inhabited

/-- The members of an object, by key. -/
abbrev Members := List (String × Json)

namespace Json

/-- The value is `null`. -/
def isNull : Json → Bool
  | null => true
  | _ => false

/-- A string as JSON, or `null`. -/
def ofOption : Option String → Json
  | none => null
  | some text => string text

/-- A natural number as JSON. -/
def ofNat (n : Nat) : Json :=
  number (.integer n)

/-- Puts a member in its place by key, instead of an earlier one with that key. -/
def insertMember (key : String) (value : Json) : Members → Members
  | [] => [(key, value)]
  | (k, v) :: rest =>
    if key < k then (key, value) :: (k, v) :: rest
    else if key = k then (key, value) :: rest
    else (k, v) :: insertMember key value rest

/-- The members of an object whose members were written in the given order: sorted by key, and of members
with one key the last. -/
def ofMembers (written : Members) : Members :=
  written.foldl (fun members (key, value) => insertMember key value members) []

end Json

end SurveyFlow
