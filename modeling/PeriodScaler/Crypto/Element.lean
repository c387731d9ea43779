/-!
# Elements of keys

The strict form of tagged values that keys and certificates are written in: a tag is one byte, a
length is as short as it can be, and a whole number has no byte that it could do without.

Model of the strict reader behind the library's keys and certificates.
-/

namespace PeriodScaler.Crypto

/-- The tags of elements. -/
def truthTag : UInt8 := 0x01
def integerTag : UInt8 := 0x02
def bitsTag : UInt8 := 0x03
def octetsTag : UInt8 := 0x04
def identifierTag : UInt8 := 0x06
def sequenceTag : UInt8 := 0x30

/-- The tag of the element with a number of its own in a sequence. -/
def contextTag (n : UInt8) : UInt8 := 0xA0 + n

/-- The length of an element below `limit`, and what follows it. -/
def elementLength? (limit : Nat) : List UInt8 → Option (Nat × List UInt8)
  | [] => none
  | b :: rest =>
    let count := b.toNat - 128
    let n := (rest.take count).foldl (fun n b => n * 256 + b.toNat) 0
    if b < 128 then some (b.toNat, rest)
    else if count = 0 ∨ rest.length < count ∨ limit ≤ n then none
    else if n < 128 ∨ n < Nat.pow 256 (count - 1) then none
    else some (n, rest.drop count)

/-- An element shorter than `limit`: its tag, its content, and what follows it. -/
def elementWithin? (limit : Nat) : List UInt8 → Option (UInt8 × List UInt8 × List UInt8)
  | [] => none
  | tag :: rest => do
    guard (tag % 32 ≠ 31)
    let (n, body) ← elementLength? limit rest
    guard (n < limit && n ≤ body.length)
    return (tag, body.take n, body.drop n)

/-- The content of the element with a tag, shorter than `limit`, and what follows it. -/
def expectWithin? (limit : Nat) (tag : UInt8) (bytes : List UInt8) :
    Option (List UInt8 × List UInt8) := do
  let (found, content, rest) ← elementWithin? limit bytes
  guard (found = tag)
  return (content, rest)

/-- The content of the element with a tag, of a usual length, and what follows it. -/
def expect? (tag : UInt8) (bytes : List UInt8) : Option (List UInt8 × List UInt8) :=
  expectWithin? 65536 tag bytes

/-- The content of an element with a tag that is all there is. -/
def whole? (tag : UInt8) (bytes : List UInt8) : Option (List UInt8) := do
  let (content, rest) ← expect? tag bytes
  guard rest.isEmpty
  return content

/-- The bits in an element with a tag that has no unused ones, and what follows it. -/
def bits? (tag : UInt8) (bytes : List UInt8) : Option (List UInt8 × List UInt8) := do
  let (content, rest) ← expect? tag bytes
  match content with
  | 0 :: bits => some (bits, rest)
  | _ => none

/-- The bytes of a whole number that is not negative, without a zero in front, and what follows
it. -/
def naturalBytes? (bytes : List UInt8) : Option (List UInt8 × List UInt8) := do
  let (content, rest) ← expect? integerTag bytes
  match content with
  | [] => none
  | [b] => if b < 128 then some ([b], rest) else none
  | b :: c :: more =>
    if b = 0 then if c ≥ 128 then some (c :: more, rest) else none
    else if b < 128 then some (content, rest)
    else none

/-- A whole number below 256, and what follows it. -/
def smallNatural? (bytes : List UInt8) : Option (Nat × List UInt8) := do
  let (content, rest) ← naturalBytes? bytes
  match content with
  | [b] => some (b.toNat, rest)
  | _ => none

/-- An element with some content, which is shorter than 65536 bytes. -/
def encode (tag : UInt8) (content : List UInt8) : List UInt8 :=
  let n := content.length
  let length : List UInt8 :=
    if n < 128 then [n.toUInt8]
    else if n < 256 then [0x81, n.toUInt8]
    else [0x82, (n / 256).toUInt8, (n % 256).toUInt8]
  tag :: length ++ content

/-- The number that bytes stand for, the highest first. -/
def natural (bytes : List UInt8) : Nat :=
  bytes.foldl (fun n b => n * 256 + b.toNat) 0

/-- The `count` bytes of a number, the highest first. -/
def naturalToBytes (count n : Nat) : List UInt8 :=
  (List.range count).map fun i => UInt8.ofNat (n / Nat.pow 256 (count - 1 - i) % 256)

/-- The number of bits of a number. -/
def bitLength (n : Nat) : Nat :=
  if n = 0 then 0 else n.log2 + 1

end PeriodScaler.Crypto
