import PeriodScaler.Yaml.Token

/-!
# Events of a document

A YAML document as a sequence of scalars, of references to nodes with a name, and of starts and ends
of collections. A node that is left out is a plain scalar without text.

The first document of a text may begin without a mark; before others and behind directives there is
one. A handle of a tag stands for what the directives of its document say; two handles have a
meaning from the start.

Model of the library's parser of events.
-/

namespace PeriodScaler.Yaml

/-- The name and the kind that a node is given. -/
structure Properties where
  anchor : Option (List Char)
  tag : Option (List UInt8)
  deriving DecidableEq, Repr

/-- An event of a document. -/
inductive Event where
  | alias (name : List Char)
  | scalar (p : Properties) (text : List Char) (isPlain : Bool)
  | sequenceStart (p : Properties)
  | sequenceEnd
  | mappingStart (p : Properties)
  | mappingEnd
  deriving DecidableEq, Repr

/-- What handles stand for. -/
abbrev Handles := List (List Char × List UInt8)

namespace Handles

/-- What handles stand for without a directive. -/
def standard : Handles :=
  [(['!'], octetsOf ['!']), (['!', '!'], octetsOf "tag:yaml.org,2002:".toList)]

/-- The tag that is written. -/
def resolve? (h : Handles) (t : WrittenTag) : Option (List UInt8) :=
  if t.handle.isEmpty then some t.suffix else (h.lookup t.handle).map (· ++ t.suffix)

end Handles

namespace Event

/-- The event of a node that is left out. -/
def absent (p : Properties) : Event :=
  .scalar p [] true

/-- The event of a node without properties that is left out. -/
def nothing : Event :=
  absent ⟨none, none⟩

/-- The properties of a node in front, in any order. -/
def properties? (h : Handles) : List Token → Option (Properties × List Token)
  | .anchor name :: .tag t :: ts => (h.resolve? t).map fun tag => (⟨some name, some tag⟩, ts)
  | .tag t :: .anchor name :: ts => (h.resolve? t).map fun tag => (⟨some name, some tag⟩, ts)
  | .anchor name :: ts => some (⟨some name, none⟩, ts)
  | .tag t :: ts => (h.resolve? t).map fun tag => (⟨none, some tag⟩, ts)
  | ts => some (⟨none, none⟩, ts)

/-- The properties of a scalar with a text: a mark alone is no tag. -/
def ofScalar (p : Properties) : Properties :=
  if p.tag = some (octetsOf ['!']) then { p with tag := none } else p

/-- Whether an item of a sequence made of lines is left out before a token. -/
def endsItem : Token → Bool
  | .blockEntry | .blockEnd => true
  | _ => false

/-- Whether a key or a value made of lines is left out before a token. -/
def endsPart : Token → Bool
  | .key | .value | .blockEnd => true
  | _ => false

/-- Whether an item of a sequence that is not indented is left out before a token. -/
def endsLooseItem (t : Token) : Bool :=
  endsItem t || endsPart t

/-- Whether a value inside brackets is left out before a token. -/
def endsFlowItem : Token → Bool
  | .flowEntry | .flowSequenceEnd => true
  | _ => false

/-- Whether a value inside braces is left out before a token. -/
def endsFlowValue : Token → Bool
  | .flowEntry | .flowMappingEnd => true
  | _ => false

/-- Whether a marked key inside braces is left out before a token. -/
def endsFlowKey : Token → Bool
  | .value => true
  | t => endsFlowValue t

/-- What can be read from tokens: events, and the tokens behind them. -/
abbrev Found := Option (List Event × List Token)

/-- Puts events in front of those that are found. -/
def Found.after (events : List Event) (found : Found) : Found :=
  found.map fun (more, ts) => (events ++ more, ts)

mutual

/-- The node in front; the first argument bounds how deep it goes. Without `block` it is inside
brackets, and with `loose` it may be a sequence that is not indented. -/
def node? (h : Handles) : Nat → (block loose : Bool) → List Token → Found
  | 0, _, _, _ => none
  | _ + 1, _, _, .alias name :: ts => some ([.alias name], ts)
  | fuel + 1, block, loose, ts => do
    let (p, ts) ← properties? h ts
    match ts with
    | .scalar text isPlain :: ts => return ([.scalar (ofScalar p) text isPlain], ts)
    | .flowSequenceStart :: ts => Found.after [.sequenceStart p] (flowItems? h fuel true ts)
    | .flowMappingStart :: ts => Found.after [.mappingStart p] (flowPairs? h fuel true ts)
    | ts =>
      match block, loose, ts with
      | _, true, .blockEntry :: _ => Found.after [.sequenceStart p] (looseItems? h fuel ts)
      | true, _, .blockSequenceStart :: ts =>
        Found.after [.sequenceStart p] (blockItems? h fuel ts)
      | true, _, .blockMappingStart :: ts => Found.after [.mappingStart p] (blockPairs? h fuel ts)
      | _, _, ts =>
        if p.anchor.isSome || p.tag.isSome then return ([absent p], ts) else none

/-- The node in front, or one that is left out if the next token ends it. -/
def part? (h : Handles) : Nat → (ends : Token → Bool) → (block loose : Bool) → List Token → Found
  | 0, _, _, _, _ => none
  | fuel + 1, ends, block, loose, ts =>
    if ts.head?.any ends then some ([nothing], ts) else node? h fuel block loose ts

/-- The items of a sequence made of lines. -/
def blockItems? (h : Handles) : Nat → List Token → Found
  | fuel + 1, .blockEntry :: ts => do
    let (item, ts) ← part? h fuel endsItem true false ts
    Found.after item (blockItems? h fuel ts)
  | _, .blockEnd :: ts => some ([.sequenceEnd], ts)
  | _, _ => none

/-- The items of a sequence that is not indented. -/
def looseItems? (h : Handles) : Nat → List Token → Found
  | fuel + 1, .blockEntry :: ts => do
    let (item, ts) ← part? h fuel endsLooseItem true false ts
    Found.after item (looseItems? h fuel ts)
  | _, ts => some ([.sequenceEnd], ts)

/-- The keys and values of a mapping made of lines. -/
def blockPairs? (h : Handles) : Nat → List Token → Found
  | fuel + 1, .key :: ts => do
    let (key, ts) ← part? h fuel endsPart true true ts
    let (value, ts) ←
      match ts with
      | .value :: ts => part? h fuel endsPart true true ts
      | ts => some ([nothing], ts)
    Found.after (key ++ value) (blockPairs? h fuel ts)
  | _, .blockEnd :: ts => some ([.mappingEnd], ts)
  | _, _ => none

/-- The items inside brackets; a comma is before each but the first. -/
def flowItems? (h : Handles) : Nat → (first : Bool) → List Token → Found
  | _, _, .flowSequenceEnd :: ts => some ([.sequenceEnd], ts)
  | _, false, .flowEntry :: .flowSequenceEnd :: ts => some ([.sequenceEnd], ts)
  | fuel + 1, false, .flowEntry :: ts => flowItem? h fuel ts
  | fuel + 1, true, ts => flowItem? h fuel ts
  | _, _, _ => none

/-- An item inside brackets and those behind it. A marked key makes it a mapping of one pair, and
a mark of a key that is followed by no node takes the token behind it with it. -/
def flowItem? (h : Handles) : Nat → List Token → Found
  | 0, _ => none
  | fuel + 1, .key :: ts => do
    let (key, ts) ←
      match ts with
      | .value :: ts => some ([nothing], ts)
      | .flowEntry :: ts => some ([nothing], ts)
      | .flowSequenceEnd :: ts => some ([nothing], ts)
      | ts => node? h fuel false false ts
    let (value, ts) ←
      match ts with
      | .value :: ts => part? h fuel endsFlowItem false false ts
      | ts => some ([nothing], ts)
    Found.after (.mappingStart ⟨none, none⟩ :: key ++ value ++ [.mappingEnd])
      (flowItems? h fuel false ts)
  | fuel + 1, ts => do
    let (item, ts) ← node? h fuel false false ts
    Found.after item (flowItems? h fuel false ts)

/-- The keys and values inside braces; a comma is before each key but the first. -/
def flowPairs? (h : Handles) : Nat → (first : Bool) → List Token → Found
  | _, _, .flowMappingEnd :: ts => some ([.mappingEnd], ts)
  | _, false, .flowEntry :: .flowMappingEnd :: ts => some ([.mappingEnd], ts)
  | fuel + 1, false, .flowEntry :: ts => flowPair? h fuel ts
  | fuel + 1, true, ts => flowPair? h fuel ts
  | _, _, _ => none

/-- A key and a value inside braces and those behind them. -/
def flowPair? (h : Handles) : Nat → List Token → Found
  | 0, _ => none
  | fuel + 1, .key :: ts => do
    let (key, ts) ← part? h fuel endsFlowKey false false ts
    let (value, ts) ←
      match ts with
      | .value :: ts => part? h fuel endsFlowValue false false ts
      | ts => some ([nothing], ts)
    Found.after (key ++ value) (flowPairs? h fuel false ts)
  | fuel + 1, ts => do
    let (key, ts) ← node? h fuel false false ts
    Found.after (key ++ [nothing]) (flowPairs? h fuel false ts)

end

/-- The directives in front and what handles stand for behind them. `versioned` tells whether there
has been a version, and `h` holds the handles so far. -/
def directives? (versioned : Bool) (h : Handles) : List Token → Option (Handles × List Token)
  | .directive (.version major minor) :: ts =>
    if !versioned && major == 1 && (minor == 1 || minor == 2) then directives? true h ts else none
  | .directive (.prefixed handle start) :: ts =>
    if (h.lookup handle).isNone then directives? versioned (h ++ [(handle, start)]) ts else none
  | ts => some (h ++ Handles.standard, ts)

/-- Whether the content of a document is left out before a token. -/
def endsDocument : Token → Bool
  | .directive _ | .documentStart | .documentEnd => true
  | _ => false

/-- The documents in front; `steps` bounds their number. -/
def documents? (size : Nat) : Nat → (first : Bool) → List Token → Option (List (List Event))
  | 0, _, _ => none
  | steps + 1, first, ts => do
    let ts := if first then ts else ts.dropWhile (· == .documentEnd)
    if ts.isEmpty then return []
    else
      let isBare := ts.head?.any fun t =>
        match t with
        | .directive _ | .documentStart => false
        | _ => true
      let (events, ts) ←
        if first && isBare then node? Handles.standard size true false ts
        else do
          let (h, ts) ← directives? false [] ts
          match ts with
          | .documentStart :: ts =>
            if ts.head?.all endsDocument then some ([nothing], ts) else node? h size true false ts
          | _ => none
      let ts := if ts.head? = some .documentEnd then ts.drop 1 else ts
      return events :: (← documents? size steps false ts)

/-- The events of the documents of a text. -/
def ofText? (text : List Char) : Option (List (List Event)) := do
  let ts ← Token.ofText? text
  documents? (4 * ts.length + 4) (ts.length + 1) true ts

end Event

end PeriodScaler.Yaml
