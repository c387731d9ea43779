import PeriodScaler.Json.Basic

/-!
# Reading records

The rules by which a JSON value is taken as a record with named fields or as one of several
named alternatives.

* A record is an object, in which unknown fields are skipped and a known one must not repeat, or an
  array of its fields in their order, from which fields may be missing at the end.
* A loose record is an object in which a known field may repeat: each of its values must be one that
  the field can have, and the last one counts.
* A missing field has its default where it has one; `null` counts as missing for an optional field
  alone.
* An alternative without content is its name, or an object with that name and `null`; an
  alternative with content is an object with one field.

Model of the readers that are derived for the program's types.
-/

namespace PeriodScaler.Json

/-- The values found for the fields of a record. -/
abbrev Record := List (String × Json)

/-- Pairs names with values in order; refuses more values than names. -/
def zipFields? : List String → List Json → Option Record
  | _, [] => some []
  | [], _ :: _ => none
  | name :: names, value :: values => (zipFields? names values).map ((name, value) :: ·)

/-- The fields of a record that knows `names`. -/
def record? (names : List String) : Json → Option Record
  | .array items => zipFields? names items
  | .object fields =>
    let known := fields.filter fun (key, _) => names.contains key
    if (known.map Prod.fst).Nodup then some known else none
  | _ => none

/-- The fields of a record that knows `names` and in which a field may repeat; an array is no such
record. -/
def looseRecord? (names : List String) : Json → Option Record
  | .object fields => some (fields.filter fun (key, _) => names.contains key)
  | _ => none

/-- Whether a value is an array of fewer than `n` items. -/
def isShortArray (n : Nat) : Json → Bool
  | .array items => items.length < n
  | _ => false

namespace Record

variable {α : Type}

/-- The values of a field that can all be read, in their order. -/
def readings (r : Record) (name : String) (value? : Json → Option α) : Option (List α) :=
  (r.filter fun (key, _) => key == name).mapM fun (_, value) => value? value

/-- A field that must be there. -/
def required (r : Record) (name : String) (value? : Json → Option α) : Option α := do
  (← r.readings name value?).getLast?

/-- A field that stands for `default` when it is missing. -/
def withDefault (r : Record) (name : String) (default : α) (value? : Json → Option α) :
    Option α := do
  return (← r.readings name value?).getLast?.getD default

/-- A field that may be missing or `null`. -/
def optional (r : Record) (name : String) (value? : Json → Option α) : Option (Option α) := do
  return (← r.readings name (orNull? value?)).getLast?.join

end Record

/-- The name and content of an alternative; a bare name has no content. -/
def alternative? : Json → Option (String × Option Json)
  | .text name => some (name, none)
  | .object [(name, content)] => some (name, some content)
  | _ => none

/-- The name of an alternative without content. -/
def bareName? (j : Json) : Option String :=
  match alternative? j with
  | some (name, none) => some name
  | some (name, some .null) => some name
  | _ => none

/-- A map from texts to texts, ordered by key; the last value of a repeated key counts. -/
def textMap? : Json → Option (List (String × String))
  | .object fields => do
    let pairs ← fields.mapM fun (key, value) => do return (key, ← text? value)
    return pairs.foldl (fun kept (key, value) => insert key value kept) []
  | _ => none
where
  /-- Inserts a pair by the order of keys, in the place of an equal key. -/
  insert (key value : String) : List (String × String) → List (String × String)
    | [] => [(key, value)]
    | (k, v) :: rest =>
      if k == key then (key, value) :: rest
      else if key < k then (key, value) :: (k, v) :: rest
      else (k, v) :: insert key value rest

/-- The object of a map from texts to texts. -/
def ofTextMap (pairs : List (String × String)) : Json :=
  .object (pairs.map fun (key, value) => (key, .text value))

end PeriodScaler.Json
