import PeriodScaler.Encoding.Base64
import PeriodScaler.Text.Blank

/-!
# Armoured blocks

Blocks `-----BEGIN tag-----` ... `-----END tag-----` in some bytes. What stands before a block and
after it does not matter. Lines of the form `name: value` may come first in it, closed by an empty
line; the rest is base64, in which blanks do not count.

The marks of a block are looked for in one pass that never steps back: where a mark breaks off, the
search goes on behind the byte that broke it.

Model of the reader of armoured keys behind `from_rsa_pem`.
-/

namespace PeriodScaler.Pem

/-- A block: its tag, and the bytes that it holds. -/
structure Block where
  tag : String
  bytes : List UInt8
  deriving DecidableEq, Repr

/-- Finds a mark of which the bytes in `left` are still missing: how many bytes there are up to its
end, and what follows it. -/
def findMark? (mark left : List UInt8) : List UInt8 → Option (Nat × List UInt8)
  | [] => none
  | b :: rest =>
    let left := if left.head? = some b then left.tail else mark
    if left.isEmpty then some (1, rest)
    else (findMark? mark left rest).map fun (n, after) => (n + 1, after)

/-- The bytes before a mark and after it. -/
def splitAtMark? (mark : String) (bytes : List UInt8) : Option (List UInt8 × List UInt8) :=
  let mark := mark.toUTF8.toList
  (findMark? mark mark bytes).map fun (n, after) => (bytes.take (n - mark.length), after)

/-- Whether a byte is a line break or another blank of the armour. -/
def isSpace (b : UInt8) : Bool :=
  b == 32 || b == 9 || b == 10 || b == 13

/-- The parts of a block as they stand. -/
structure Parts where
  opening : List UInt8
  heading : List UInt8
  data : List UInt8
  closing : List UInt8
  deriving Repr

/-- The heading of a block, which is empty most of the time, and its base64. -/
def splitHeading (body : List UInt8) : List UInt8 × List UInt8 :=
  (splitAtMark? "\n\n" body).getD ((splitAtMark? "\r\n\r\n" body).getD ([], body))

/-- Finds the next block: its parts, and what follows it. -/
def parts? (bytes : List UInt8) : Option (Parts × List UInt8) := do
  let (_, rest) ← splitAtMark? "-----BEGIN " bytes
  let (opening, rest) ← splitAtMark? "-----" rest
  let (body, rest) ← splitAtMark? "-----END " (rest.dropWhile isSpace)
  let (closing, rest) ← splitAtMark? "-----" rest
  let (heading, data) := splitHeading body
  return (⟨opening, heading, data, closing⟩, rest.dropWhile isSpace)

/-- Bytes as a text. -/
def text? (bytes : List UInt8) : Option String :=
  String.fromUTF8? ⟨bytes.toArray⟩

/-- The lines of a heading; what follows the last line break is a line only if it is not empty. -/
def headingLines (text : String) : List (List Char) :=
  let lines := Text.pieces ['\n'] text.toList
  if lines.getLast? == some [] then lines.dropLast else lines

/-- The block with some parts. -/
def Parts.block? (p : Parts) : Option Block := do
  let tag ← text? p.opening
  guard (tag ≠ "" && (← text? p.closing) = tag)
  let data ← text? p.data
  let bytes ← Base64.decode? (data.toList.filter fun c => !Text.isBlank c)
  guard ((headingLines (← text? p.heading)).all fun line => line.contains ':')
  return ⟨tag, bytes⟩

/-- Reads the first block. -/
def block? (bytes : List UInt8) : Option Block :=
  (parts? bytes).bind fun (parts, _) => parts.block?

/-- The parts of at most `limit` blocks. -/
def allParts : Nat → List UInt8 → List Parts
  | 0, _ => []
  | limit + 1, bytes =>
    match parts? bytes with
    | none => []
    | some (parts, rest) => parts :: allParts limit rest

/-- Reads all blocks; none when one of them cannot be read. -/
def blocks? (bytes : List UInt8) : Option (List Block) :=
  (allParts bytes.length bytes).mapM Parts.block?

end PeriodScaler.Pem
