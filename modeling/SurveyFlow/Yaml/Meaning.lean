import SurveyFlow.Data
import SurveyFlow.Number.Decimal
import SurveyFlow.Yaml.Node

/-!
# YAML text: what nodes mean

A plain scalar that looks like null, a truth value or a number is one; a quoted scalar is a text. Where a
record says that a field is a text, its scalar is taken as the text that it is written as, plain or not
(`Node.asText?`).
-/

namespace SurveyFlow.Yaml

/-- A plain scalar that means that nothing is there. -/
def isNullWord (s : String) : Bool :=
  ["", "null", "Null", "NULL", "~"].contains s

/-- The truth value that a plain scalar means. -/
def boolWord? (s : String) : Option Bool :=
  if ["true", "True", "TRUE"].contains s then some true
  else if ["false", "False", "FALSE"].contains s then some false
  else none

/-- More digits than one, the first of them a zero: no number. -/
def hasLeadingZero (digits : List Char) : Bool :=
  match digits with
  | '0' :: _ :: _ => digits.all Char.isDigit
  | _ => false

/-- The number that unsigned digits denote, in radix 16, 8 or 2 behind a mark, else in radix 10. -/
def magnitude? : List Char → Option Nat
  | '0' :: 'x' :: digits => radixValue? 16 digits
  | '0' :: 'o' :: digits => radixValue? 8 digits
  | '0' :: 'b' :: digits => radixValue? 2 digits
  | digits => if hasLeadingZero digits then none else radixValue? 10 digits

/-- The integer that a plain scalar means. -/
def integer? (s : String) : Option Int :=
  match s.toList with
  | '-' :: digits => (magnitude? digits).map fun n => -(n : Int)
  | '+' :: digits | digits => (magnitude? digits).map Int.ofNat

/-- The natural number below `2 ^ 64` that a plain scalar means. -/
def unsignedWord? (s : String) : Option Nat :=
  if s.startsWith "-" then none
  else (integer? s).bind fun n => if n < bitBound 64 then some n.toNat else none

/-- A plain scalar that means a number that is no integer. -/
def isReal (s : String) : Bool :=
  let special := [".inf", ".Inf", ".INF", "+.inf", "+.Inf", "+.INF", "-.inf", "-.Inf", "-.INF", ".nan", ".NaN",
    ".NAN"]
  special.contains s || (!hasLeadingZero (splitSign s.toList).2 && (finiteDouble? s).isSome)

/-- What a plain scalar means; nothing for an integer that needs more than 64 bits but not more than 128. -/
def plainMeaning? (s : String) : Option Data :=
  if isNullWord s then some .null
  else match boolWord? s, integer? s with
    | some b, _ => some (.bool b)
    | none, some n =>
      if n = 0 ∧ s.startsWith "-" then some .real
      else if -(bitBound 63 : Int) ≤ n ∧ n < bitBound 64 then some (.integer n)
      else if -(bitBound 127 : Int) ≤ n ∧ n < bitBound 128 then none
      else some (if isReal s then .real else .text s)
    | none, none => some (if isReal s then .real else .text s)

mutual

/-- A node as data; nothing if it is nested more than `depth` levels deep. -/
def Node.toData? (depth : Nat) : Node → Option Data
  | .scalar s => if s.plain then plainMeaning? s.text else some (.text s.text)
  | .sequence items => if depth = 0 then none else (itemsData? (depth - 1) items).map .list
  | .mapping entries => if depth = 0 then none else (entriesData? (depth - 1) entries).map .map

/-- The items of a sequence as data. -/
def itemsData? (depth : Nat) : List Node → Option (List Data)
  | [] => some []
  | item :: items => do
    let d ← item.toData? depth
    let ds ← itemsData? depth items
    return d :: ds

/-- The entries of a mapping as data. -/
def entriesData? (depth : Nat) : List (Node × Node) → Option (List (Data × Data))
  | [] => some []
  | (key, value) :: entries => do
    let k ← key.toData? depth
    let d ← value.toData? depth
    let ds ← entriesData? depth entries
    return (k, d) :: ds

end

namespace Node

/-- A scalar as the text that it is written as. -/
def asText? : Node → Option String
  | scalar s => some s.text
  | _ => none

/-- A plain scalar. -/
def asPlain? : Node → Option String
  | scalar ⟨true, text⟩ => some text
  | _ => none

/-- A text that may be missing: absent, or a plain scalar that means so. -/
def asOptionalText? : Option Node → Option (Option String)
  | none => some none
  | some node =>
    match node.asPlain? with
    | some s => some (if isNullWord s then none else some s)
    | none => node.asText?.map some

/-- A sequence; a scalar of which nothing is written is an empty one. -/
def asSequence? : Node → Option (List Node)
  | sequence items => some items
  | scalar ⟨true, ""⟩ => some []
  | _ => none

/-- The fields of a record of the given field names. A record is a mapping, of which the keys are scalars; a
scalar of which nothing is written is a record without fields. -/
def fields? (names : List String) : Node → Option (List (String × Node))
  | mapping entries => do
    knownFields? names (← entries.mapM fun (key, value) => key.asText?.map (·, value))
  | scalar ⟨true, ""⟩ => some []
  | _ => none

end Node

end SurveyFlow.Yaml
