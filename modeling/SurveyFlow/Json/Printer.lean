import SurveyFlow.Json.Written
import SurveyFlow.Number.Shortest

/-!
# Writing JSON text

Members are written in the order in which they are kept. The indented form puts each item and each member on
a line of its own, two spaces further in; an empty array or object stays on one line. A double is written as its
shortest decimal, with a point or an exponent, so that it is told from an integer.
-/

namespace SurveyFlow

/-! ## Numbers -/

/-- The decimal digits of a natural number. -/
def decimalDigits (n : Nat) : List Char :=
  Nat.toDigits 10 n

/-- A decimal as a numeral: positional while its point is near, that is behind sixteen digits at most or before four
zeros at most, and otherwise with one digit before the point and an exponent. -/
def Digits.numeral (negative : Bool) (d : Digits) : Numeral :=
  let digits := decimalDigits d.significand
  let point : Int := digits.length + d.exponent
  if 0 ≤ d.exponent ∧ point ≤ 16 then ⟨negative, digits ++ List.replicate d.exponent.toNat '0', ['0'], none⟩
  else if 0 < point ∧ point ≤ 16 then ⟨negative, digits.take point.toNat, digits.drop point.toNat, none⟩
  else if -5 < point ∧ point ≤ 0 then ⟨negative, ['0'], List.replicate (-point).toNat '0' ++ digits, none⟩
  else ⟨negative, digits.take 1, digits.drop 1, some (decide (point - 1 < 0), decimalDigits (point - 1).natAbs)⟩

/-- A number as a numeral. -/
def JsonNumber.numeral : JsonNumber → Numeral
  | integer n => ⟨decide (n < 0), decimalDigits n.natAbs, [], none⟩
  | double x => if x.units = 0 then ⟨x.isNegative, ['0'], ['0'], none⟩ else (shortestDigits x).numeral x.isNegative

/-- A sign, which only a negative number has. -/
def signText (negative : Bool) : List Char :=
  if negative then ['-'] else []

/-- A fraction with its point. -/
def fractionText (fraction : List Char) : List Char :=
  if fraction = [] then [] else '.' :: fraction

/-- An exponent with its letter. -/
def exponentText : Option (Bool × List Char) → List Char
  | none => []
  | some (negative, digits) => 'e' :: (signText negative ++ digits)

/-- The text of a numeral. -/
def Numeral.render (n : Numeral) : List Char :=
  signText n.negative ++ (n.whole ++ (fractionText n.fraction ++ exponentText n.exponent))

/-- A number that is infinite or no number cannot be written. -/
def JsonNumber.isWritable : JsonNumber → Bool
  | integer _ => true
  | double x => x.isFinite

/-- A JSON number; null for one that cannot be written. -/
def JsonNumber.render (n : JsonNumber) : String :=
  if n.isWritable then String.ofList n.numeral.render else "null"

/-! ## Strings -/

/-- A hexadecimal digit. -/
def hexDigit (n : Nat) : Char :=
  (Nat.toDigits 16 n).headD '0'

/-- A character as it stands in a JSON string: quotes, backslashes and control characters are escaped. -/
def escapeJsonChar (c : Char) : List Char :=
  if c = '"' || c = '\\' then ['\\', c]
  else if c = '\x08' then ['\\', 'b']
  else if c = '\t' then ['\\', 't']
  else if c = '\n' then ['\\', 'n']
  else if c = '\x0c' then ['\\', 'f']
  else if c = '\r' then ['\\', 'r']
  else if c.toNat < 0x20 then ['\\', 'u', '0', '0', hexDigit (c.toNat / 16), hexDigit (c.toNat % 16)]
  else [c]

/-- A JSON string. -/
def jsonString (text : String) : String :=
  "\"" ++ String.ofList (text.toList.flatMap escapeJsonChar) ++ "\""

/-! ## Values -/

mutual

/-- A value on one line, without blanks. -/
def Json.render : Json → String
  | .null => "null"
  | .bool b => if b then "true" else "false"
  | .number n => n.render
  | .string s => jsonString s
  | .array items => "[" ++ ",".intercalate (renderItems items) ++ "]"
  | .object members => "\x7b" ++ ",".intercalate (renderMembers members) ++ "\x7d"

/-- The items of an array, each on one line. -/
def renderItems : List Json → List String
  | [] => []
  | item :: items => item.render :: renderItems items

/-- The members of an object, each on one line. -/
def renderMembers : Members → List String
  | [] => []
  | (key, value) :: members => (jsonString key ++ ":" ++ value.render) :: renderMembers members

end

/-- A line break and the blanks before an entry at the given level. -/
def indentation (level : Nat) : String :=
  String.ofList ('\n' :: List.replicate (2 * level) ' ')

/-- Entries between brackets, each on a line of its own. -/
def indented (level : Nat) (opening closing : String) (entries : List String) : String :=
  if entries.isEmpty then opening ++ closing
  else
    opening ++ indentation (level + 1) ++ ("," ++ indentation (level + 1)).intercalate entries ++
      indentation level ++ closing

mutual

/-- A value on lines of its own, at the given level. -/
def Json.renderIndented (level : Nat) : Json → String
  | .array items => indented level "[" "]" (renderIndentedItems (level + 1) items)
  | .object members => indented level "\x7b" "\x7d" (renderIndentedMembers (level + 1) members)
  | .null => "null"
  | .bool b => if b then "true" else "false"
  | .number n => n.render
  | .string s => jsonString s

/-- The items of an array at the given level. -/
def renderIndentedItems (level : Nat) : List Json → List String
  | [] => []
  | item :: items => item.renderIndented level :: renderIndentedItems level items

/-- The members of an object at the given level. -/
def renderIndentedMembers (level : Nat) : Members → List String
  | [] => []
  | (key, value) :: members =>
    (jsonString key ++ ": " ++ value.renderIndented level) :: renderIndentedMembers level members

end

end SurveyFlow
