import PeriodScaler.Decimal.Nearest
import PeriodScaler.Yaml.Event

/-!
# Values of a document

What the events of a YAML document mean. A plain scalar is null, a truth value or a number when it
has the form of one, and a text otherwise; a tag can say which of them it must be. A tag of its own
stays with its value.

No two keys of a mapping are the same. Collections hold one another at most 128 deep, also through
references, and references are followed at most a hundred times as often as there are events.

Model of the library's `Value` and of how it is loaded.
-/

namespace PeriodScaler.Yaml

/-- A value of a document. A number that is not whole is kept by its bits, with a zero without
sign. -/
inductive Value where
  | null
  | bool (b : Bool)
  | int (n : Int)
  | float (bits : Nat)
  | text (s : String)
  | sequence (items : List Value)
  | mapping (entries : List (Value × Value))
  | tagged (tag : String) (value : Value)
  deriving Inhabited, Repr

namespace Value

mutual

/-- Whether two values are the same; the order of entries does not count. -/
def same : Value → Value → Bool
  | .null, .null => true
  | .bool a, .bool b => a == b
  | .int a, .int b => a == b
  | .float a, .float b => a == b
  | .text a, .text b => a == b
  | .sequence xs, .sequence ys => sameItems xs ys
  | .mapping xs, .mapping ys => xs.length == ys.length && isWithin xs ys
  | .tagged t x, .tagged u y => t == u && same x y
  | _, _ => false

/-- Whether two lists have the same items. -/
def sameItems : List Value → List Value → Bool
  | [], [] => true
  | x :: xs, y :: ys => same x y && sameItems xs ys
  | _, _ => false

/-- Whether all entries of the first list are among those of the second. -/
def isWithin : List (Value × Value) → List (Value × Value) → Bool
  | [], _ => true
  | (key, value) :: rest, ys =>
    (ys.any fun (k, v) => same key k && same value v) && isWithin rest ys

end

/-! ## Scalars -/

/-- The value of a binary64 number. -/
def ofFloat (x : Float) : Value :=
  if x == 0 then .float 0 else .float x.toBits.toNat

/-- A number without a sign that some characters write in a base of sixteen, eight or two, which is
said in front, or in base ten. -/
def based? : List Char → Option Nat
  | '0' :: 'x' :: ds => inBase? 16 ds
  | '0' :: 'o' :: ds => inBase? 8 ds
  | '0' :: 'b' :: ds => inBase? 2 ds
  | ds => Text.digits? ds
where
  /-- The number that digits write in a base. -/
  inBase? (base : Nat) (ds : List Char) : Option Nat := do
    let digits ← ds.mapM Text.hexDigit?
    guard (!digits.isEmpty && digits.all (· < base))
    return digits.foldl (fun n d => n * base + d) 0

/-- Whether some characters are digits with a zero in front that does not count. -/
def isPadded (cs : List Char) : Bool :=
  let ds := if cs.head?.any fun c => c == '-' || c == '+' then cs.drop 1 else cs
  1 < ds.length && ds.head? == some '0' && ds.all Char.isDigit

/-- The whole number that some characters write. -/
def int? (cs : List Char) : Option Int :=
  if isPadded cs then none
  else
    match cs with
    | '-' :: ds => (based? ds).map (- Int.ofNat ·)
    | '+' :: ds => (based? ds).map Int.ofNat
    | ds => (based? ds).map Int.ofNat

/-- A whole number of up to 128 bits, of which those of more than 64 bits cannot be kept; nothing
when it is larger. -/
def ofInt? (n : Int) : Option (Option Value) :=
  if -9223372036854775808 ≤ n ∧ n ≤ (Text.maxWord64 : Int) then some (some (.int n))
  else if -170141183460469231731687303715884105728 ≤ n ∧
      n ≤ 340282366920938463463374607431768211455 then some none
  else none

/-- The number that some characters write, which may be infinite or none at all. -/
def float? (cs : List Char) : Option Value :=
  let word := String.ofList cs
  let unsigned := if cs.head? = some '+' ∨ cs.head? = some '-' then cs.drop 1 else cs
  if [".inf", ".Inf", ".INF"].contains (String.ofList unsigned) then
    some (ofFloat (if cs.head? = some '-' then -1 / 0 else 1 / 0))
  else if [".nan", ".NaN", ".NAN"].contains word then some (ofFloat (0 / 0))
  else (Decimal.read? unsigned).map fun x => ofFloat (if cs.head? = some '-' then -x else x)

/-- Whether a word means null. -/
def isNull (word : String) : Bool :=
  ["null", "Null", "NULL", "~"].contains word

/-- The truth value that a word means. -/
def bool? (word : String) : Option Bool :=
  if ["true", "True", "TRUE"].contains word then some true
  else if ["false", "False", "FALSE"].contains word then some false
  else none

/-- The value of a plain scalar. None when it is a whole number that cannot be kept. -/
def ofPlain? (cs : List Char) : Option Value :=
  let word := String.ofList cs
  if cs.isEmpty || isNull word then some .null
  else
    match bool? word with
    | some b => some (.bool b)
    | none =>
      match (int? cs).bind ofInt? with
      | some kept => kept
      | none => some (((if isPadded cs then none else float? cs)).getD (.text word))

/-- The tag that the standard gives a name. -/
def standardTag (name : String) : List UInt8 :=
  octetsOf ("tag:yaml.org,2002:" ++ name).toList

/-- The value of a scalar with a tag that is not its own. -/
def ofTagged? (tag : List UInt8) (cs : List Char) : Option Value :=
  let word := String.ofList cs
  if tag = standardTag "bool" then (bool? word).map .bool
  else if tag = standardTag "int" then ((int? cs).bind ofInt?).join
  else if tag = standardTag "float" then float? cs
  else if tag = standardTag "null" then if isNull word then some .null else none
  else some (.text word)

end Value

/-! ## Documents -/

/-- The name of a tag of its own: what is behind its mark. Nothing for another tag. -/
def ownTag? : Option (List UInt8) → Option String
  | some (33 :: rest) => String.fromUTF8? ⟨rest.toArray⟩
  | _ => none

/-- The events of a document with the places that references mean. -/
structure Document where
  events : Array Event
  /-- The numbers of the named nodes, by name. -/
  names : List (List Char × Nat)
  /-- The places of named nodes, by number. -/
  nodes : List (Nat × Nat)
  /-- The numbers that references mean, by the places of the references. -/
  references : List (Nat × Nat)

namespace Document

/-- Adds an event. A named node gets the count of the names before it as its number, also if its
name is not new. None at a reference to a name that is not known. -/
def add? (d : Document) (e : Event) : Option Document :=
  let place := d.events.size
  let added := { d with events := d.events.push e }
  let named (p : Properties) : Document :=
    match p.anchor with
    | none => added
    | some name =>
      let number := d.names.length
      { added with
        names := (name, number) :: d.names.filter fun (n, _) => n ≠ name
        nodes := (number, place) :: d.nodes }
  match e with
  | .alias name => do
    let number ← d.names.lookup name
    return { added with references := (place, number) :: d.references }
  | .scalar p _ _ => some (named p)
  | .sequenceStart p => some (named p)
  | .mappingStart p => some (named p)
  | _ => some added

/-- The document with some events. -/
def ofEvents? (events : List Event) : Option Document :=
  events.foldlM add? ⟨#[], [], [], []⟩

/-- The place that the reference at a place means. -/
def target? (d : Document) (place : Nat) : Option Nat :=
  (d.references.lookup place).bind fun number => d.nodes.lookup number

/-- How far a document has been read: the next place, and how often references were followed. -/
structure Reading where
  place : Nat
  jumps : Nat

mutual

/-- The value at a place. `depth` tells how deep collections may still go, and `named` whether the
tag of the node has been taken already; the second argument bounds the steps. -/
def value? (d : Document) : Nat → (depth : Nat) → (named : Bool) → Reading →
    Option (Value × Reading)
  | 0, _, _, _ => none
  | steps + 1, depth, named, r => do
    let own (tag : Option (List UInt8)) : Option String := if named then none else ownTag? tag
    let tagged (name : String) : Option (Value × Reading) := do
      guard (!name.isEmpty)
      let (value, r) ← value? d steps depth true r
      let short := if 1 < name.length ∧ name.startsWith "!" then (name.drop 1).toString else name
      return (.tagged short value, r)
    let next := { r with place := r.place + 1 }
    match ← d.events[r.place]? with
    | .alias _ => do
      guard (r.jumps < 100 * d.events.size)
      let (value, inside) ← value? d steps depth false ⟨← d.target? r.place, r.jumps + 1⟩
      return (value, { next with jumps := inside.jumps })
    | .scalar p cs isPlain =>
      match own p.tag with
      | some name => tagged name
      | none =>
        let foreign := p.tag.filter fun tag => !named && (tag.head? ≠ some 33 || !isPlain)
        let value ←
          match foreign with
          | some tag => Value.ofTagged? tag cs
          | none => if isPlain then Value.ofPlain? cs else some (.text (String.ofList cs))
        return (value, next)
    | .sequenceStart p =>
      match own p.tag, depth with
      | some name, _ => tagged name
      | none, 0 => none
      | none, depth + 1 => do
        let (items, r) ← items? d steps depth next
        return (.sequence items, r)
    | .mappingStart p =>
      match own p.tag, depth with
      | some name, _ => tagged name
      | none, 0 => none
      | none, depth + 1 => do
        let (entries, r) ← entries? d steps depth [] next
        return (.mapping entries, r)
    | _ => none

/-- The items of a sequence from a place on. -/
def items? (d : Document) : Nat → (depth : Nat) → Reading → Option (List Value × Reading)
  | 0, _, _ => none
  | steps + 1, depth, r =>
    if d.events[r.place]? = some .sequenceEnd then some ([], { r with place := r.place + 1 })
    else do
      let (item, r) ← value? d steps depth false r
      let (more, r) ← items? d steps depth r
      return (item :: more, r)

/-- The entries of a mapping from a place on, behind those in `done`. -/
def entries? (d : Document) : Nat → (depth : Nat) → (done : List (Value × Value)) → Reading →
    Option (List (Value × Value) × Reading)
  | 0, _, _, _ => none
  | steps + 1, depth, done, r =>
    if d.events[r.place]? = some .mappingEnd then
      some (done.reverse, { r with place := r.place + 1 })
    else do
      let (key, r) ← value? d steps depth false r
      guard !(done.any fun (k, _) => key.same k)
      let (value, r) ← value? d steps depth false r
      entries? d steps depth ((key, value) :: done) r

end

/-- The value of a document; every chain of nested steps goes at most once through all events at
every depth. -/
def value (d : Document) : Option Value :=
  (value? d (130 * (3 * d.events.size + 3)) 128 false ⟨0, 0⟩).map Prod.fst

end Document

/-- The values of the documents of a text; a text without documents counts as one that is null. -/
def values? (text : List Char) : Option (List Value) := do
  let documents ← Event.ofText? text
  if documents.isEmpty then return [.null]
  else documents.mapM fun events => (Document.ofEvents? events).bind Document.value

end PeriodScaler.Yaml
