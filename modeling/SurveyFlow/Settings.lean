import SurveyFlow.Failure
import SurveyFlow.Number.Decimal
import SurveyFlow.Text.CharClass
import SurveyFlow.Yaml.Meaning

/-!
# Settings

The settings say what becomes of an item whose condition cannot be decided, and how many conditions the
cache keeps. They are read from a file and then overridden from variables, one field at a time, the policy
first: an error leaves the fields that come after it as they were.
-/

namespace SurveyFlow

/-- What becomes of an item whose condition cannot be decided. -/
inductive Policy where
  | show
  | hide
deriving DecidableEq, Repr, Inhabited

/-- The name of a policy in settings. -/
def Policy.name : Policy → String
  | .show => "show"
  | .hide => "hide"

/-- The policy of exactly that name. -/
def Policy.ofName? (name : String) : Option Policy :=
  if name = Policy.show.name then some .show
  else if name = Policy.hide.name then some .hide
  else none

/-- Reads a policy, whatever the case of its letters and the blanks around it. -/
def Policy.ofText (text : String) : Except ConfigError Policy :=
  let name := (trimBlanks text).map Char.toLower
  match Policy.ofName? name with
  | some policy => .ok policy
  | none => .error (.unknownPolicy name)

/-- The settings of a run. -/
structure Settings where
  onError : Policy
  cacheCapacity : Nat
deriving DecidableEq, Repr

namespace Settings

/-- Show what cannot be decided, and keep 1024 conditions. -/
def default : Settings :=
  ⟨.show, 1024⟩

instance : Inhabited Settings := ⟨default⟩

/-- The variable that overrides the policy. -/
def policyVariable : String := "SKIPLOGIC_ON_ERROR"

/-- The variable that overrides the capacity. -/
def capacityVariable : String := "SKIPLOGIC_CACHE_CAPACITY"

/-! ## Overrides -/

/-- Overrides the policy, if the variable is set. -/
def overridePolicy (s : Settings) : Option String → Except ConfigError Settings
  | none => .ok s
  | some text => (Policy.ofText text).map fun policy => { s with onError := policy }

/-- Overrides the capacity, if the variable is set. -/
def overrideCapacity (s : Settings) : Option String → Except ConfigError Settings
  | none => .ok s
  | some text =>
    match unsigned? (trimBlanks text) with
    | some capacity => .ok { s with cacheCapacity := capacity }
    | none => .error (.badCapacity capacityVariable text)

/-- Applies the overrides, with the settings as they are afterwards and the error that stopped it. -/
def override (s : Settings) (lookup : String → Option String) : Settings × Option ConfigError :=
  match s.overridePolicy (lookup policyVariable) with
  | .error e => (s, some e)
  | .ok s =>
    match s.overrideCapacity (lookup capacityVariable) with
    | .error e => (s, some e)
    | .ok s => (s, none)

/-! ## Reading -/

/-- The fields of settings, in order. -/
def fieldNames : List String := ["on_error", "cache_capacity"]

/-- Reads settings from data. -/
def ofData? (data : Data) : Option Settings := do
  let fields ← data.fields? fieldNames
  let onError ← match fields.lookup "on_error" with
    | none => pure default.onError
    | some d => Policy.ofName? (← d.asName? ["show", "hide"] fun _ => false)
  let cacheCapacity ← match fields.lookup "cache_capacity" with
    | none => pure default.cacheCapacity
    | some d => d.asUnsigned?
  return { onError, cacheCapacity }

/-- Reads settings from YAML text. The policy is a scalar of any form, the capacity a plain one. -/
def ofYaml? (text : String) : Option Settings := do
  let fields ← (← Yaml.Node.ofText? text).fields? fieldNames
  let onError ← match fields.lookup "on_error" with
    | none => pure default.onError
    | some node => Policy.ofName? (← node.asText?)
  let cacheCapacity ← match fields.lookup "cache_capacity" with
    | none => pure default.cacheCapacity
    | some node => Yaml.unsignedWord? (← node.asPlain?)
  return { onError, cacheCapacity }

end Settings

end SurveyFlow
