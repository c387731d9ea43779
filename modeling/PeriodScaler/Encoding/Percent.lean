import PeriodScaler.Text.Blank
import PeriodScaler.Text.Decimal

/-!
# Percent encoding

Bytes that an address cannot hold are written as `%` and two digits of base sixteen. A form, such as
the query of an address, is a list of names with values in which a space may also be written as `+`.

Model of the library's sets of encoded characters and of the pairs of a query.
-/

namespace PeriodScaler.Percent

/-- A byte as `%` and two digits. -/
def encodeByte (b : UInt8) : List Char :=
  ['%', (Text.hexDigit (b.toNat / 16)).toUpper, (Text.hexDigit (b.toNat % 16)).toUpper]

/-- A character, encoded when `keep` does not hold of it. -/
def encodeChar (keep : Char → Bool) (c : Char) : List Char :=
  if keep c then [c] else (String.singleton c).toUTF8.toList.flatMap encodeByte

/-- A text in which only characters that satisfy `keep` stand for themselves. -/
def encode (keep : Char → Bool) (cs : List Char) : List Char :=
  cs.flatMap (encodeChar keep)

/-- Bytes of a text in which encoded ones are decoded; a `%` without two digits stands for
itself. -/
def decodeBytes : List Char → List UInt8
  | [] => []
  | '%' :: a :: b :: rest =>
    match Text.hexDigit? a, Text.hexDigit? b with
    | some x, some y => UInt8.ofNat (x * 16 + y) :: decodeBytes rest
    | _, _ => 37 :: decodeBytes (a :: b :: rest)
  | c :: rest => (String.singleton c).toUTF8.toList ++ decodeBytes rest

/-- The length of the UTF-8 sequence at the start of some bytes and its lower and upper bound for
the second byte; zero when no sequence starts so. -/
def sequenceShape (b : UInt8) : Nat × UInt8 × UInt8 :=
  if b < 0x80 then (1, 0x80, 0xBF)
  else if 0xC2 ≤ b ∧ b ≤ 0xDF then (2, 0x80, 0xBF)
  else if b = 0xE0 then (3, 0xA0, 0xBF)
  else if b = 0xED then (3, 0x80, 0x9F)
  else if 0xE1 ≤ b ∧ b ≤ 0xEF then (3, 0x80, 0xBF)
  else if b = 0xF0 then (4, 0x90, 0xBF)
  else if 0xF1 ≤ b ∧ b ≤ 0xF3 then (4, 0x80, 0xBF)
  else if b = 0xF4 then (4, 0x80, 0x8F)
  else (0, 0, 0)

/-- How many of some bytes continue a sequence of `n` more bytes, the first within bounds. -/
def continued : Nat → UInt8 → UInt8 → List UInt8 → Nat
  | 0, _, _, _ => 0
  | _, _, _, [] => 0
  | n + 1, lo, hi, b :: rest => if lo ≤ b ∧ b ≤ hi then continued n 0x80 0xBF rest + 1 else 0

/-- Characters of some bytes; the longest start of a sequence that is broken off is one replacement
character. `skip` bytes are already part of a character. -/
def decodeUtf8After : Nat → List UInt8 → List Char
  | _, [] => []
  | skip + 1, _ :: rest => decodeUtf8After skip rest
  | 0, b :: rest =>
    let (n, lo, hi) := sequenceShape b
    let taken := continued (n - 1) lo hi rest
    let char :=
      if n = 0 ∨ taken + 1 < n then '\uFFFD'
      else
        ((String.fromUTF8? ⟨(b :: rest.take taken).toArray⟩).bind
          fun s => s.toList.head?).getD '\uFFFD'
    char :: decodeUtf8After taken rest

/-- Characters of some bytes. -/
def decodeUtf8 (bytes : List UInt8) : List Char :=
  decodeUtf8After 0 bytes

/-- The text of an encoded part of a form. -/
def decodeFormPart (cs : List Char) : String :=
  String.ofList (decodeUtf8 (decodeBytes (cs.map fun c => if c = '+' then ' ' else c)))

/-- The parts of a form, each a name that may have a value; empty parts are passed over. -/
def formParts (form : List Char) : List (String × Option String) :=
  ((Text.pieces ['&'] form).filter fun part => !part.isEmpty).map fun part =>
    match Text.splitOnce? ['='] part with
    | some (name, value) => (decodeFormPart name, some (decodeFormPart value))
    | none => (decodeFormPart part, none)

/-- Whether a character of a form stands for itself. -/
def keepsInForm (c : Char) : Bool :=
  c.isAlphanum || c == '*' || c == '-' || c == '.' || c == '_'

/-- A part of a form, encoded. -/
def encodeFormPart (text : String) : List Char :=
  text.toList.flatMap fun c => if c = ' ' then ['+'] else encodeChar keepsInForm c

/-- A form with some pairs. -/
def formText (pairs : List (String × String)) : List Char :=
  List.intercalate ['&'] (pairs.map fun (name, value) =>
    encodeFormPart name ++ '=' :: encodeFormPart value)

end PeriodScaler.Percent
