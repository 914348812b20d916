import SurveyFlow.Json.Basic
import SurveyFlow.Number.Decimal

/-!
# JSON as it is written

Not every JSON text has a value: a number may be too large for a double, an escape may name half of a
surrogate pair, and a value may be nested too deep. Where such a value is ignored, it does no harm. So a text
is first read as a tree that keeps numbers as digits (`Written`), and a part of the tree is given its value
only where the value is asked for (`Written.value?`).
-/

namespace SurveyFlow

/-! ## Numbers

The double of a number is not always the nearest one. The leading digits are taken as the significand while
they fit 64 bits; integer digits beyond them count as zeros and fraction digits beyond them not at all. The
significand becomes a double, and that is multiplied by or divided by the double next to a power of ten, in
steps of `10 ^ 308`. -/

/-- A number as its digits. -/
structure Numeral where
  negative : Bool
  whole : List Char
  /-- The digits after the point; none if there is no point. -/
  fraction : List Char
  /-- The exponent with its sign, true for a minus, if there is one. -/
  exponent : Option (Bool × List Char)

/-- Takes digits into a significand while it stays below `2 ^ 64`; gives the significand and the digits
that did not fit. -/
def takeDigits (significand : Nat) : List Char → Nat × List Char
  | [] => (significand, [])
  | d :: ds =>
    let next := 10 * significand + (d.toNat - '0'.toNat)
    if next < bitBound 64 then takeDigits next ds else (significand, d :: ds)

/-- Multiplies by a power of ten; nothing if the result is infinite. -/
def scaleUp? (x : Double) (exponent : Nat) : Option Double :=
  if exponent ≤ 308 then
    let y := x.product (nearestDouble (tenPower exponent) 1)
    if y.isInfinite then none else some y
  else if x = .zero then some x
  else none

/-- Divides by a power of ten. -/
def scaleDownTen (x : Double) (exponent : Nat) : Double :=
  if exponent ≤ 308 then x.quotient (nearestDouble (tenPower exponent) 1)
  else if x = .zero then x
  else scaleDownTen (x.quotient (nearestDouble (tenPower 308) 1)) (exponent - 308)
termination_by exponent

/-- The double of a significand and an exponent of ten; nothing if it is infinite. -/
def scaledDouble? (significand : Nat) (exponent : Int) : Option Double :=
  let x := nearestDouble significand 1
  match exponent with
  | .ofNat e => scaleUp? x e
  | .negSucc e => some (scaleDownTen x (e + 1))

/-- The exponent of a numeral as a number. One of more than ten digits is cut to ten nines, which every
significand but zero makes infinite or zero. -/
def Numeral.exponentValue (n : Numeral) : Int :=
  match n.exponent with
  | none => 0
  | some (negative, digits) =>
    let significant := digits.dropWhile (· = '0')
    let size := if significant.length ≤ 10 then digitsValue significant else 9999999999
    if negative then -(size : Int) else size

/-- The value of a number; nothing if it is too large for a double. -/
def Numeral.value? (n : Numeral) : Option JsonNumber :=
  let (significand, beyond) := takeDigits 0 n.whole
  let limit := if n.negative then bitBound 63 else bitBound 64 - 1
  let zero := n.negative && significand == 0
  if n.fraction = [] ∧ n.exponent = none ∧ beyond = [] ∧ significand ≤ limit ∧ !zero then
    some (.integer (if n.negative then -(significand : Int) else significand))
  else
    let (all, dropped) := takeDigits significand n.fraction
    let places := n.fraction.length - dropped.length
    let exponent := n.exponentValue + beyond.length - places
    (scaledDouble? all exponent).map fun x => .double (x.negateIf n.negative)

/-! ## Strings -/

/-- A piece of a string: a character, or the code unit of a `\u` escape. -/
inductive StringPiece where
  | char (c : Char)
  | unit (code : Nat)

/-- A code unit that begins a surrogate pair. -/
def isHighSurrogate (code : Nat) : Bool :=
  0xD800 ≤ code && code < 0xDC00

/-- A code unit that ends a surrogate pair. -/
def isLowSurrogate (code : Nat) : Bool :=
  0xDC00 ≤ code && code < 0xE000

/-- The characters of a string; nothing if a surrogate stands without its partner. -/
def stringChars? : List StringPiece → Option (List Char)
  | [] => some []
  | .char c :: rest => (stringChars? rest).map (c :: ·)
  | .unit high :: .unit low :: rest =>
    if isHighSurrogate high then
      if isLowSurrogate low then
        let code := 0x10000 + (high - 0xD800) * 0x400 + (low - 0xDC00)
        (stringChars? rest).map (Char.ofNat code :: ·)
      else none
    else if isLowSurrogate high then none
    else (stringChars? (.unit low :: rest)).map (Char.ofNat high :: ·)
  | .unit code :: rest =>
    if isHighSurrogate code || isLowSurrogate code then none
    else (stringChars? rest).map (Char.ofNat code :: ·)

/-! ## Trees -/

/-- A JSON text as a tree. A string is nothing where its escapes make no text. -/
inductive Written where
  | null
  | bool (value : Bool)
  | number (digits : Numeral)
  | string (text : Option String)
  | array (items : List Written)
  | object (members : List (Option String × Written))

/-- Values may be nested this deep. -/
def jsonDepth : Nat := 127

mutual

/-- The value of a tree; nothing if a part has none or stands more than `depth` levels deep. -/
def Written.value? (depth : Nat) : Written → Option Json
  | .null => some .null
  | .bool b => some (.bool b)
  | .number digits => digits.value?.map .number
  | .string text => text.map .string
  | .array items => if depth = 0 then none else (itemValues? (depth - 1) items).map .array
  | .object members =>
    if depth = 0 then none else (memberValues? (depth - 1) members).map fun ms => .object (Json.ofMembers ms)

/-- The values of the items of an array. -/
def itemValues? (depth : Nat) : List Written → Option (List Json)
  | [] => some []
  | item :: items => do
    let value ← item.value? depth
    let values ← itemValues? depth items
    return value :: values

/-- The values of the members of an object. -/
def memberValues? (depth : Nat) : List (Option String × Written) → Option Members
  | [] => some []
  | (key, member) :: members => do
    let key ← key
    let value ← member.value? depth
    let values ← memberValues? depth members
    return (key, value) :: values

end

end SurveyFlow
