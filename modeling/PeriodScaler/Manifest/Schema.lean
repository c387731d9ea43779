import PeriodScaler.Json.Record

/-!
# Schemas of resources

What a cluster has to know about the fields of a resource: their types, which of them must be there,
and what stands for those that are not. A schema is told as JSON whose fields are in alphabetical
order, and so are the fields that it describes.

Model of the library's schemas of derived types, as far as the types of a Scaler need them.
-/

namespace PeriodScaler.Manifest

/-- A schema whose parts are already told as JSON. -/
structure Schema where
  type : String
  description : Option String
  title : Option String
  /-- Whether null is allowed. -/
  nullable : Bool
  /-- What stands for a missing value. -/
  default : Option Json
  /-- The only texts that are allowed; all of them when there are none here. -/
  words : List String
  /-- The schema of the items of a list. -/
  items : Option Json
  /-- The schema of the values of a map. -/
  values : Option Json
  /-- The schemas of the fields of a record. -/
  fields : List (String × Json)
  required : List String
  /-- The fields of which exactly one is there. -/
  alternatives : List String

namespace Schema

/-- The schema of everything of a type. -/
def ofType (type : String) : Schema where
  type := type
  description := none
  title := none
  nullable := false
  default := none
  words := []
  items := none
  values := none
  fields := []
  required := []
  alternatives := []

/-- A field of an object, when there is something to tell. -/
def told {α : Type} (name : String) (f : α → Json) : Option α → List (String × Json)
  | none => []
  | some a => [(name, f a)]

/-- A field of an object for a list that is not empty. -/
def toldList (name : String) (f : List α → Json) (l : List α) : List (String × Json) :=
  if l.isEmpty then [] else [(name, f l)]

/-- The JSON form. -/
def toJson (s : Schema) : Json :=
  .object
    (told "additionalProperties" id s.values ++ told "default" id s.default ++
      told "description" .text s.description ++ toldList "enum" Json.ofTexts s.words ++
      told "items" id s.items ++ (if s.nullable then [("nullable", .bool true)] else []) ++
      toldList "oneOf"
        (fun names => .array (names.map fun n => .object [("required", Json.ofTexts [n])]))
        s.alternatives ++
      toldList "properties" .object s.fields ++ toldList "required" Json.ofTexts s.required ++
      told "title" .text s.title ++ [("type", .text s.type)])

/-- A schema with a description. -/
def describedAs (description : String) (s : Schema) : Schema :=
  { s with description := some description }

/-- A schema that also allows null. -/
def orNull (s : Schema) : Schema :=
  { s with nullable := true }

/-- A schema with a value for what is missing. -/
def withDefault (value : Json) (s : Schema) : Schema :=
  { s with default := some value }

/-- The schema of texts. -/
def text : Schema := ofType "string"

/-- The schema of truth values. -/
def flag : Schema := ofType "boolean"

/-- The schema of some words. -/
def oneOfWords (words : List String) : Schema :=
  { ofType "string" with words }

/-- The schema of lists. -/
def list (item : Schema) : Schema :=
  { ofType "array" with items := some item.toJson }

/-- The schema of maps from texts to texts. -/
def textMap : Schema :=
  { ofType "object" with values := some text.toJson }

/-- Puts a name into a list in its alphabetical place. -/
def insertName (name : String) : List String → List String
  | [] => [name]
  | n :: rest => if name < n then name :: n :: rest else n :: insertName name rest

/-- Names in alphabetical order. -/
def sortedNames (names : List String) : List String :=
  names.foldr insertName []

/-- Fields with their schemas in alphabetical order. -/
def sortedFields (fields : List (String × Schema)) : List (String × Json) :=
  fields.foldr (fun (name, s) done => Json.insertSorted name s.toJson done) []

/-- The schema of records with some fields, of which some must be there. -/
def record (fields : List (String × Schema)) (required : List String) : Schema :=
  { ofType "object" with
    fields := sortedFields fields
    required := sortedNames required }

/-- The schema of records with exactly one of some fields. -/
def exactlyOne (fields : List (String × Schema)) : Schema :=
  { record fields [] with alternatives := fields.map Prod.fst }

end Schema

end PeriodScaler.Manifest
