import PeriodScaler.Json.Basic
import PeriodScaler.Yaml.Value

/-!
# Writing YAML

A value as the lines of a block document: two blanks for every level, the items of a sequence as far
to the left as the key that holds them, and quotes only around texts that could be read as something
else.

Model of the library's `to_string` for documents, as `crdgen` uses it.
-/

namespace PeriodScaler.Yaml

/-- Whether some characters hold something that ends a plain scalar. `before` is the character
before them. -/
def breaksPlain (before : Char) : List Char → Bool
  | [] => before == ':' || isBlank before
  | c :: rest =>
    (before == ':' && isBlank c) || (isBlank before && c == '#') || c.toNat < 32 ||
      c.toNat == 127 || breaksPlain c rest

/-- Whether a plain scalar can begin with a character that has `rest` behind it. -/
def canStart (c : Char) (rest : List Char) : Bool :=
  Scan.startsPlain c || ((c == '-' || c == '?' || c == ':') && !startsGap rest)

/-- Whether a text can be written as a plain scalar and is read as a text again. -/
def isPlain (s : String) : Bool :=
  match s.toList with
  | [] => false
  | c :: rest =>
    canStart c rest && !breaksPlain c rest &&
      match Value.ofPlain? (c :: rest) with
      | some (.text _) => true
      | _ => false

/-- A text as a scalar. -/
def scalar (s : String) : String :=
  if isPlain s then s
  else
    String.ofList ('\'' ::
      (s.toList.flatMap fun c => if c = '\'' then ['\'', '\''] else [c]) ++ ['\''])

/-- The text of a value that fits behind a key; none for collections with something in them. -/
def inlineText? : Json → Option String
  | .null => some "null"
  | .bool true => some "true"
  | .bool false => some "false"
  | .number literal => some literal
  | .text s => some (scalar s)
  | .array [] => some "[]"
  | .object [] => some "\x7b\x7d"
  | .unreadable => some "null"
  | _ => none

/-- The lines of an item of a sequence. -/
def itemLines : List String → List String
  | [] => []
  | first :: rest => ("- " ++ first) :: rest.map fun l => "  " ++ l

mutual

/-- The lines of a value. -/
def lines : Json → List String
  | .array (item :: items) => sequenceLines (item :: items)
  | .object (field :: fields) => mappingLines (field :: fields)
  | other => [(inlineText? other).getD ""]

/-- The lines of the items of a sequence. -/
def sequenceLines : List Json → List String
  | [] => []
  | item :: rest => itemLines (lines item) ++ sequenceLines rest

/-- The lines of the fields of a mapping. -/
def mappingLines : List (String × Json) → List String
  | [] => []
  | (name, value) :: rest =>
    let own :=
      match inlineText? value, value with
      | some text, _ => [scalar name ++ ": " ++ text]
      | none, .array _ => (scalar name ++ ":") :: lines value
      | none, _ => (scalar name ++ ":") :: (lines value).map fun l => "  " ++ l
    own ++ mappingLines rest

end

/-- The document with a value. -/
def document (j : Json) : String :=
  String.join ((lines j).map fun l => l ++ "\n")

end PeriodScaler.Yaml
