import PeriodScaler.Yaml.Value

/-!
# Reading records from documents

The rules by which a value of a YAML document is taken as something else. Tags do not count, but a
null with a tag is there. A null stands for a record without fields and for a list without items. All
names of fields are texts, an unknown one is skipped, and a known one must not repeat.

Model of the readers that are derived for the types of a `Kubeconfig`, on a value of a document.
-/

namespace PeriodScaler.Yaml.Value

variable {α : Type}

/-- A value without its tags. -/
def untagged : Value → Value
  | .tagged _ value => value.untagged
  | value => value

/-- A text. -/
def text? (v : Value) : Option String :=
  match v.untagged with
  | .text s => some s
  | _ => none

/-- A truth value. -/
def truth? (v : Value) : Option Bool :=
  match v.untagged with
  | .bool b => some b
  | _ => none

/-- The items of a list, each read by `item?`. -/
def list? (item? : Value → Option α) (v : Value) : Option (List α) :=
  match v.untagged with
  | .sequence items => items.mapM item?
  | .null => some []
  | _ => none

/-- The entries of a mapping whose keys are texts. -/
def named? (v : Value) : Option (List (String × Value)) :=
  match v.untagged with
  | .mapping entries => entries.mapM fun (key, value) => do return (← key.text?, value)
  | .null => some []
  | _ => none

/-- A map from texts to texts; the last value of a repeated key counts. -/
def textMap? (v : Value) : Option (List (String × String)) := do
  let pairs ← (← v.named?).mapM fun (key, value) => do return (key, ← value.text?)
  return pairs.reverse

/-- The value, or nothing for null. -/
def orNull? (value? : Value → Option α) : Value → Option (Option α)
  | .null => some none
  | other => (value? other).map some

/-- The name of an alternative without content. -/
def alternative? : Value → Option String
  | .text name => some name
  | .tagged name content =>
    match content.untagged with
    | .null => some name
    | _ => none
  | _ => none

mutual

/-- Whether a value has a form as JSON: it has no tags, and its keys are texts. -/
def isJson : Value → Bool
  | .tagged _ _ => false
  | .sequence items => areJson items
  | .mapping entries => areJsonFields entries
  | _ => true

/-- Whether all items have a form as JSON. -/
def areJson : List Value → Bool
  | [] => true
  | item :: rest => item.isJson && areJson rest

/-- Whether all entries have a form as JSON. -/
def areJsonFields : List (Value × Value) → Bool
  | [] => true
  | (key, value) :: rest => key.text?.isSome && value.isJson && areJsonFields rest

end

/-- The values found for the fields of a record. -/
abbrev Record := List (String × Value)

/-- The fields of a record that knows `names`. -/
def record? (names : List String) (v : Value) : Option Record := do
  let known := (← v.named?).filter fun (key, _) => names.contains key
  if (known.map Prod.fst).Nodup then some known else none

namespace Record

/-- A field that must be there. -/
def required (r : Record) (name : String) (value? : Value → Option α) : Option α :=
  (r.lookup name).bind value?

/-- A field that stands for `default` when it is missing. -/
def withDefault (r : Record) (name : String) (default : α) (value? : Value → Option α) :
    Option α :=
  match r.lookup name with
  | none => some default
  | some value => value? value

/-- A field that may be missing or null. -/
def optional (r : Record) (name : String) (value? : Value → Option α) : Option (Option α) :=
  r.withDefault name none (orNull? value?)

/-- A list that may be missing or null. -/
def listOf (r : Record) (name : String) (item? : Value → Option α) : Option (List α) := do
  return (← r.optional name (list? item?)).getD []

end Record

end PeriodScaler.Yaml.Value
