import PeriodScaler.Crypto.Element

/-!
# Certificates

Certificates as far as they are looked at before a connection is made: their outer form, that the
algorithm of the signature is the same inside and outside, and their extensions. A known extension
must not repeat, and one that is not known must not be critical. Times, names and signatures are not
looked at.

Model of what the library checks of a certificate before a connection.
-/

namespace PeriodScaler.Crypto

/-- A certificate. -/
structure Certificate where
  /-- The description of its public key. -/
  key : List UInt8
  deriving DecidableEq, Repr

namespace Certificate

/-- No element of a certificate is as long as this. -/
def limit : Nat := 65535

/-- The content of the element with a tag, and what follows it. -/
def part? (tag : UInt8) (bytes : List UInt8) : Option (List UInt8 × List UInt8) :=
  expectWithin? limit tag bytes

/-- The content of an element with a tag that is all there is. -/
def all? (tag : UInt8) (bytes : List UInt8) : Option (List UInt8) :=
  (part? tag bytes).bind fun (content, rest) => if rest.isEmpty then some content else none

/-- An extension. -/
structure Extension where
  identifier : List UInt8
  critical : Bool
  value : List UInt8
  deriving DecidableEq, Repr

namespace Extension

/-- Reads the content of an extension. -/
def ofContent? (bytes : List UInt8) : Option Extension := do
  let (identifier, rest) ← part? identifierTag bytes
  let (critical, rest) ←
    if rest.head? = some truthTag then
      match part? truthTag rest with
      | some ([0xff], rest) => some (true, rest)
      | some ([0x00], rest) => some (false, rest)
      | _ => none
    else some (false, rest)
  return ⟨identifier, critical, ← all? octetsTag rest⟩

/-- The identifier of the use of the key. -/
def keyUse : List UInt8 := [0x55, 0x1d, 15]

/-- The identifiers of the extensions that are known: the use of the key, other names, whether it is
an authority, constraints on names, where revocations are, and further uses. -/
def known : List (List UInt8) :=
  keyUse :: [17, 19, 30, 31, 37].map fun n => [0x55, 0x1d, n]

/-- Whether an extension can be accepted behind others with some identifiers. -/
def isAcceptable (e : Extension) (before : List (List UInt8)) : Bool :=
  if known.contains e.identifier then
    !before.contains e.identifier &&
      (e.identifier == keyUse || (all? sequenceTag e.value).isSome)
  else !e.critical

end Extension

/-- Whether a sequence of extensions can be accepted behind others with some identifiers; `steps`
bounds their number. -/
def areAcceptable : Nat → List (List UInt8) → List UInt8 → Bool
  | 0, _, _ => false
  | _, _, [] => true
  | steps + 1, before, bytes =>
    match part? sequenceTag bytes with
    | none => false
    | some (content, rest) =>
      match Extension.ofContent? content with
      | none => false
      | some e =>
        e.isAcceptable before && areAcceptable steps (e.identifier :: before) rest

/-- Takes a certificate apart: what is signed, the algorithm of the signature, and the signature. -/
def parts? (bytes : List UInt8) : Option (List UInt8 × List UInt8 × List UInt8) := do
  let (signed, rest) ← part? sequenceTag (← all? sequenceTag bytes)
  let (algorithm, rest) ← part? sequenceTag rest
  return (signed, algorithm, ← all? bitsTag rest)

/-- Reads a certificate of the third version. -/
def ofBytes? (bytes : List UInt8) : Option Certificate := do
  let (signed, algorithm, signature) ← parts? bytes
  guard (signature.head? = some 0)
  let (version, rest) ← part? (contextTag 0) signed
  guard (all? integerTag version = some [2])
  let (_, rest) ← part? integerTag rest
  let (inner, rest) ← part? sequenceTag rest
  guard (inner = algorithm)
  let (_, rest) ← part? sequenceTag rest
  let (_, rest) ← part? sequenceTag rest
  let (_, rest) ← part? sequenceTag rest
  let (key, rest) ← part? sequenceTag rest
  if !rest.isEmpty then
    let extensions ← all? sequenceTag (← all? (contextTag 3) rest)
    guard (areAcceptable (extensions.length + 1) [] extensions)
  return ⟨key⟩

/-- Reads a certificate of the first version, which has no extensions. -/
def ofFirstVersion? (bytes : List UInt8) : Option Certificate := do
  let (signed, _, _) ← parts? bytes
  let (_, rest) ← part? integerTag signed
  let (_, rest) ← part? sequenceTag rest
  let (_, rest) ← part? sequenceTag rest
  let (_, rest) ← part? sequenceTag rest
  let (_, rest) ← part? sequenceTag rest
  return ⟨← all? sequenceTag rest⟩

/-- Whether bytes are a certificate that can be trusted without another one. -/
def isAnchor (bytes : List UInt8) : Bool :=
  ((ofBytes? bytes).or (ofFirstVersion? bytes)).isSome

end Certificate

end PeriodScaler.Crypto
