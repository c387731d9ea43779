import PeriodScaler.Json.Basic

/-!
# Merge patches

RFC 7386: an object as patch changes the named fields of its target, `null` removes one, and any
other patch takes the place of the target.

Model of what a cluster does with the body of a merge patch.
-/

namespace PeriodScaler.Json

/-- The fields of an object; none for any other value. -/
def fieldsOrNone : Json → List (String × Json)
  | .object fields => fields
  | _ => []

/-- A list of fields without the field `name`. -/
def removeField (name : String) (fields : List (String × Json)) : List (String × Json) :=
  fields.filter fun (key, _) => key != name

mutual

/-- The value that `patch` makes of `target`. -/
def merge (target : Json) : Json → Json
  | .object changes => .object (mergeFields (fieldsOrNone target) changes)
  | patch => patch

/-- Applies the changes of a patch to the fields of its target, one after the other. -/
def mergeFields (fields : List (String × Json)) : List (String × Json) → List (String × Json)
  | [] => fields
  | (name, .null) :: rest => mergeFields (removeField name fields) rest
  | (name, change) :: rest =>
    mergeFields (setField name (merge ((lastOf? name fields).getD .null) change) fields) rest

end

end PeriodScaler.Json
