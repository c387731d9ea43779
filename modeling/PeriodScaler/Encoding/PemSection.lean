import PeriodScaler.Encoding.Base64

/-!
# Armoured sections

Sections between the lines `-----BEGIN label-----` and `-----END label-----`, found line by line. A
line ends with a line feed or with a carriage return. The lines of a section are base64, in which
blanks do not count. A section with a label that nobody knows is passed over.

Model of the reader of certificates and keys that stand in a `Kubeconfig`.
-/

namespace PeriodScaler.PemSection

/-- The kinds of sections that are known. -/
inductive Kind where
  | certificate
  | rsaKey
  | wrappedKey
  | ellipticKey
  | other
  deriving DecidableEq, Repr

/-- The kind of section with a label. -/
def Kind.ofLabel? (label : String) : Option Kind :=
  [("CERTIFICATE", certificate), ("RSA PRIVATE KEY", rsaKey), ("PRIVATE KEY", wrappedKey),
    ("EC PRIVATE KEY", ellipticKey), ("PUBLIC KEY", other), ("X509 CRL", other),
    ("CERTIFICATE REQUEST", other), ("ECHCONFIG", other)].lookup label

/-- The lines of some bytes, each with the byte that ends it. -/
def lines : List UInt8 → List (List UInt8)
  | [] => []
  | b :: rest =>
    if b = 10 ∨ b = 13 then [b] :: lines rest
    else
      match lines rest with
      | [] => [[b]]
      | line :: others => (b :: line) :: others

/-- What a line says about sections. -/
inductive Line where
  | start (label : List UInt8)
  /-- A start whose end is missing. -/
  | brokenStart
  | text

/-- Reads a line. The label of a start ends before five dashes, behind which only blanks and the end
of the line may come; those among the dashes do not count. -/
def lineOf (line : List UInt8) : Line :=
  let mark := "-----BEGIN ".toUTF8.toList
  if mark.isPrefixOf line then
    let isTail (b : UInt8) : Bool := b == 45 || b == 10 || b == 13 || b == 32
    let tail := line.reverse.takeWhile isTail
    let dashes := tail.filter (· == 45)
    -- Blanks between the label and the first dash belong to the label.
    let blanks := (tail.reverse.takeWhile (· ≠ 45)).length
    if dashes.length = 5 then
      .start ((line.take (line.length - tail.length + blanks)).drop mark.length)
    else .brokenStart
  else .text

/-- How far sections have been read. -/
structure Reading where
  /-- The label of the open section. -/
  label : Option (List UInt8)
  /-- What it holds so far. -/
  text : List UInt8
  /-- The sections before it, the last one first. -/
  done : List (Kind × List UInt8)

/-- The bytes that a text in base64 stands for. -/
def decoded? (text : List UInt8) : Option (List UInt8) :=
  let isBlank (b : UInt8) : Bool := b == 32 || b == 9 || b == 10 || b == 13
  Base64.decode? ((text.filter fun b => !isBlank b).map fun b => Char.ofNat b.toNat)

/-- Reads on by one line. -/
def Reading.step? (r : Reading) (line : List UInt8) : Option Reading :=
  match lineOf line with
  | .start label => some { r with label := some label }
  | .brokenStart => none
  | .text =>
    match r.label with
    | none => some r
    | some label =>
      let mark := "-----END ".toUTF8.toList ++ label ++ "-----".toUTF8.toList
      if mark.isPrefixOf line then
        match (String.fromUTF8? ⟨label.toArray⟩).bind Kind.ofLabel? with
        | none => some ⟨none, [], r.done⟩
        | some kind => (decoded? r.text).map fun bytes => ⟨none, [], (kind, bytes) :: r.done⟩
      else some { r with text := r.text ++ line }

/-- The sections of some bytes with what they hold; none when one is broken. -/
def all? (bytes : List UInt8) : Option (List (Kind × List UInt8)) := do
  let r ← (lines bytes).foldlM Reading.step? ⟨none, [], []⟩
  if r.label.isNone then some r.done.reverse else none

end PeriodScaler.PemSection
