import PeriodScaler.Encoding.Base64
import PeriodScaler.Scaler.Metadata

/-!
# Shapes of objects

What an object of a cluster must look like to be read at all, also where no rule looks at it: the
type of every field that is known. Fields that are not known may hold anything. A field that is null
counts as missing, except one that names what the object is; one that repeats must have the right
type each time.

Model of how the library's derived readers accept the objects that `KubeWorkloads` and
`KubeProviderConnector` read, as one reader over tables. Left out: the values of fields that no rule
reads; a shape only accepts them.
-/

namespace PeriodScaler.Cluster

/-- What a value must look like. -/
inductive Shape where
  | text
  | truth
  /-- Whole numbers of 32 and of 64 bits. -/
  | whole32
  | whole64
  | wholeOrText
  | instant
  /-- Bytes in base64. -/
  | bytes
  /-- Exactly this text. -/
  | exactly (expected : String)
  | metadata
  | list (item : Shape)
  | map (value : Shape)
  | record (fields : List (String × Shape))
  deriving Inhabited, Repr

namespace Shape

/-- Several fields of the same shape. -/
def all (s : Shape) (names : List String) : List (String × Shape) :=
  names.map fun name => (name, s)

/-- Whether null may stand for a value. -/
def allowsNull : Shape → Bool
  | .exactly _ => false
  | _ => true

/-- The bytes that a value stands for; null stands for none. -/
def bytes? : Json → Option (List UInt8)
  | .null => some []
  | j => j.text?.bind fun text => Base64.decode? text.toList

mutual

/-- Whether a value that `outer` lists and objects are around has a shape. -/
def fits (outer : Nat) : Shape → Json → Bool
  | .text, j => j.text?.isSome
  | .truth, j => j.bool?.isSome
  | .whole32, j => j.int32?.isSome
  | .whole64, j => j.int64?.isSome
  | .wholeOrText, j => j.int32?.isSome || j.text?.isSome
  | .instant, j => j.instant?.isSome
  | .bytes, j => (bytes? j).isSome
  | .exactly expected, j => j.text? == some expected
  | .metadata, j => (Metadata.ofJson? outer j).isSome
  | .list item, .array items => items.all fun j => fits (outer + 1) item j
  | .map value, .object fields => fields.all fun (_, j) => fits (outer + 1) value j
  | .record shapes, .object fields => haveShapes (outer + 1) shapes fields
  | _, _ => false

/-- Whether the fields of a record have their shapes. -/
def haveShapes (outer : Nat) : List (String × Shape) → List (String × Json) → Bool
  | [], _ => true
  | (name, shape) :: rest, fields =>
    (fields.all fun (key, j) =>
      key != name || (allowsNull shape && j == .null) || fits outer shape j) &&
      haveShapes outer rest fields

end

end Shape

end PeriodScaler.Cluster
