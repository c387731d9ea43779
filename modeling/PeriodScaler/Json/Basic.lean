import PeriodScaler.Text.Decimal

/-!
# JSON values

A JSON value with its object fields in the order in which they stand. A number is kept as its
literal, since no rule here computes with one: a reader asks for a whole number between two bounds.

The constructor `unreadable` stands for a value that is grammatical but whose own text holds an
unpaired surrogate: it can be skipped, and no reader accepts it.

Model of the JSON library's data as its readers see them.
-/

namespace PeriodScaler

/-- A JSON value; the fields of an object keep their order and may repeat. -/
inductive Json where
  | null
  | bool (value : Bool)
  | number (literal : String)
  | text (value : String)
  | array (items : List Json)
  | object (fields : List (String × Json))
  | unreadable
  deriving Inhabited, Repr

namespace Json

mutual

/-- Whether two values are the same. -/
def decideEq : (a b : Json) → Decidable (a = b)
  | .null, b => by
    cases b with
    | null => exact isTrue rfl
    | _ => exact isFalse (by simp)
  | .bool x, b => by
    cases b with
    | bool y => exact decidable_of_iff (x = y) (by simp)
    | _ => exact isFalse (by simp)
  | .number x, b => by
    cases b with
    | number y => exact decidable_of_iff (x = y) (by simp)
    | _ => exact isFalse (by simp)
  | .text x, b => by
    cases b with
    | text y => exact decidable_of_iff (x = y) (by simp)
    | _ => exact isFalse (by simp)
  | .array xs, b => by
    cases b with
    | array ys =>
      have := decideEqItems xs ys
      exact decidable_of_iff (xs = ys) (by simp)
    | _ => exact isFalse (by simp)
  | .object xs, b => by
    cases b with
    | object ys =>
      have := decideEqFields xs ys
      exact decidable_of_iff (xs = ys) (by simp)
    | _ => exact isFalse (by simp)
  | .unreadable, b => by
    cases b with
    | unreadable => exact isTrue rfl
    | _ => exact isFalse (by simp)

/-- Whether two lists of values are the same. -/
def decideEqItems : (xs ys : List Json) → Decidable (xs = ys)
  | [], [] => isTrue rfl
  | [], _ :: _ => isFalse (by simp)
  | _ :: _, [] => isFalse (by simp)
  | x :: xs, y :: ys =>
    have := decideEq x y
    have := decideEqItems xs ys
    decidable_of_iff (x = y ∧ xs = ys) (by simp)

/-- Whether two lists of fields are the same. -/
def decideEqFields : (xs ys : List (String × Json)) → Decidable (xs = ys)
  | [], [] => isTrue rfl
  | [], _ :: _ => isFalse (by simp)
  | _ :: _, [] => isFalse (by simp)
  | (a, x) :: xs, (b, y) :: ys =>
    have := decideEq x y
    have := decideEqFields xs ys
    decidable_of_iff (a = b ∧ x = y ∧ xs = ys) (by simp [and_assoc])

end

instance : DecidableEq Json := decideEq

/-- A whole number. -/
def ofInt (n : Int) : Json :=
  .number (Text.ofInt n)

/-- A list of texts. -/
def ofTexts (texts : List String) : Json :=
  .array (texts.map .text)

/-- The last value that `fields` gives to `name`. -/
def lastOf? (name : String) (fields : List (String × Json)) : Option Json :=
  fields.foldl (fun found (key, value) => if key == name then some value else found) none

/-- Puts `value` in the place of the field `name`, or at the end when there is none. -/
def setField (name : String) (value : Json) : List (String × Json) → List (String × Json)
  | [] => [(name, value)]
  | (key, old) :: rest =>
    if key == name then (key, value) :: rest else (key, old) :: setField name value rest

/-- Inserts a field by the order of names. -/
def insertSorted (name : String) (value : Json) : List (String × Json) → List (String × Json)
  | [] => [(name, value)]
  | (key, old) :: rest =>
    if key == name then (name, value) :: rest
    else if name < key then (name, value) :: (key, old) :: rest
    else (key, old) :: insertSorted name value rest

mutual

/-- The same value with the fields of every object ordered by name, the last of a repeated name
kept. -/
def canonical : Json → Json
  | .array items => .array (canonicalItems items)
  | .object fields => .object (canonicalFields [] fields)
  | other => other

/-- `canonical` on every item. -/
def canonicalItems : List Json → List Json
  | [] => []
  | item :: rest => canonical item :: canonicalItems rest

/-- `canonical` on every field, gathered in order of names. -/
def canonicalFields (done : List (String × Json)) :
    List (String × Json) → List (String × Json)
  | [] => done
  | (key, value) :: rest => canonicalFields (insertSorted key (canonical value) done) rest

end

/-- The field `name` of an object; the last one when it repeats. -/
def field? (name : String) : Json → Option Json
  | .object fields => lastOf? name fields
  | _ => none

/-- A text. -/
def text? : Json → Option String
  | .text s => some s
  | _ => none

/-- A truth value. -/
def bool? : Json → Option Bool
  | .bool b => some b
  | _ => none

/-- A whole number between `lo` and `hi`, written without fraction and exponent. A zero with a
sign is no whole number. -/
def int? (lo hi : Int) : Json → Option Int
  | .number literal =>
    match literal.toList with
    | '-' :: '0' :: _ => none
    | '+' :: _ => none
    | cs => Text.int? lo hi cs
  | _ => none

/-- A signed number of 32 bits. -/
def int32? : Json → Option Int :=
  int? (-2147483648) 2147483647

/-- A signed number of 64 bits. -/
def int64? : Json → Option Int :=
  int? (-9223372036854775808) 9223372036854775807

/-- A list whose items all read by `item?`. -/
def list? {α : Type} (item? : Json → Option α) : Json → Option (List α)
  | .array items => items.mapM item?
  | _ => none

/-- A list of texts. -/
def texts? : Json → Option (List String) :=
  list? text?

/-- The value, or nothing for `null`. -/
def orNull? {α : Type} (value? : Json → Option α) : Json → Option (Option α)
  | .null => some none
  | other => (value? other).map some

end Json

end PeriodScaler
