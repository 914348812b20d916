import SurveyFlow.Json.Basic

/-!
# Untyped data

Definitions and settings come as JSON or as YAML text. Both become one kind of tree, and records are read
from that. A record is a map from field names, or a list of its fields in order of declaration; so a field
of a map may also be named by its number in that order. Fields of other names are passed over, and no field
may be given twice.
-/

namespace SurveyFlow

/-- A tree of values. The keys of a map need not be texts. -/
inductive Data where
  | null
  | bool (value : Bool)
  | integer (value : Int)
  /-- A number that is no integer, or an integer zero with a minus. No field takes one, so it is not kept. -/
  | real
  | text (value : String)
  | list (items : List Data)
  | map (entries : List (Data × Data))

mutual

/-- A JSON value as data. -/
def Json.toData : Json → Data
  | .null => .null
  | .bool b => .bool b
  | .number (.integer n) => .integer n
  | .number (.double _) => .real
  | .string s => .text s
  | .array items => .list (itemsToData items)
  | .object members => .map (membersToData members)

/-- The items of an array as data. -/
def itemsToData : List Json → List Data
  | [] => []
  | item :: items => item.toData :: itemsToData items

/-- The members of an object as data. -/
def membersToData : Members → List (Data × Data)
  | [] => []
  | (key, value) :: members => (.text key, value.toData) :: membersToData members

end

/-! ## Records -/

/-- The fields among `entries` that a record of the given field names has; nothing if one is given twice. -/
def knownFields? {α : Type} (names : List String) (entries : List (String × α)) :
    Option (List (String × α)) :=
  let known := entries.filter fun e => names.contains e.1
  if (known.map Prod.fst).Nodup then some known else none

/-- The fields of a record that is given as a list; nothing if it has too many. -/
def listedFields? {α : Type} (names : List String) (items : List α) : Option (List (String × α)) :=
  if items.length ≤ names.length then some (names.zip items) else none

/-- The name that a key stands for: itself, or the name of that number, if there is one. Keys of other
kinds stand for nothing, and neither can they be passed over. -/
def Data.name? (names : List String) : Data → Option (Option String)
  | .text name => some (some name)
  | .integer n => if 0 ≤ n then some names[n.toNat]? else none
  | _ => none

/-- The fields of a record of the given field names. -/
def Data.fields? (names : List String) : Data → Option (List (String × Data))
  | .list items => listedFields? names items
  | .map entries => do
    let named ← entries.mapM fun (key, value) => (key.name? names).map fun name => (name, value)
    knownFields? names (named.filterMap fun (name, value) => name.map (·, value))
  | _ => none

/-- The fields of a record that is given as JSON. -/
def Json.fields? (names : List String) : Json → Option Members
  | .array items => listedFields? names items
  | .object members => knownFields? names members
  | _ => none

namespace Data

/-- The value is null. -/
def isNull : Data → Bool
  | null => true
  | _ => false

/-- A text. -/
def asText? : Data → Option String
  | text s => some s
  | _ => none

/-- A truth value. -/
def asBool? : Data → Option Bool
  | bool b => some b
  | _ => none

/-- A list. -/
def asList? : Data → Option (List Data)
  | list items => some items
  | _ => none

/-- A natural number below `2 ^ 64`. -/
def asUnsigned? : Data → Option Nat
  | integer n => if 0 ≤ n ∧ n < bitBound 64 then some n.toNat else none
  | _ => none

/-- A text that may be missing: absent or null. -/
def asOptionalText? : Option Data → Option (Option String)
  | none | some null => some none
  | some (text s) => some (some s)
  | some _ => none

/-- A map without entries. -/
def isEmptyMap : Data → Bool
  | map [] => true
  | _ => false

/-- One of some names: the name itself, or a map of one entry from the name to nothing, which is null or
what `nothing` takes for it. -/
def asName? (names : List String) (nothing : Data → Bool) : Data → Option String
  | text name => if names.contains name then some name else none
  | map [(key, value)] => do
    let name ← (← key.name? names)
    if (value.isNull || nothing value) && names.contains name then some name else none
  | _ => none

end Data

end SurveyFlow
