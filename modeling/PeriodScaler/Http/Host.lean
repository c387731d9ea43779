import PeriodScaler.Encoding.Percent
import PeriodScaler.HostName.Ascii
import PeriodScaler.Http.Ip

/-!
# Hosts

The host in an address: a name, or the number of a machine. A number of version 4 has one to four
parts, each of them decimal, octal behind `0` or of base sixteen behind `0x`; the last part stands for
all octets that are left. A number of version 6 stands in brackets. A name whose last label is a
number is no name.

Model of the hosts of the library type `Url`.
-/

namespace PeriodScaler.Http.Host

/-- A part of a number of version 4: none when it is no number at all. -/
def part? (cs : List Char) : Option Nat :=
  let inBase (base : Nat) (ds : List Char) : Option Nat :=
    if ds.all fun c => (Ip.digitIn? base c).isSome then
      some (ds.foldl (fun n c => n * base + (Ip.digitIn? base c).getD 0) 0)
    else none
  match cs with
  | [] => none
  | '0' :: 'x' :: ds => inBase 16 ds
  | '0' :: 'X' :: ds => inBase 16 ds
  | '0' :: d :: ds => inBase 8 (d :: ds)
  | ds => inBase 10 ds

/-- The labels of a name; a point at the end does not count. -/
def labels (name : List Char) : List (List Char) :=
  let parts := Text.pieces ['.'] name
  if parts.getLast? == some [] then parts.dropLast else parts

/-- Whether the last label of a name is a number. -/
def endsInNumber (name : List Char) : Bool :=
  match (labels name).getLast? with
  | none => false
  | some last => (!last.isEmpty && last.all Text.isDigit) || (part? last).isSome

/-- The number of version 4 with some parts. -/
def ofParts? (parts : List Nat) : Option Nat :=
  match parts.reverse with
  | [] => none
  | last :: before =>
    let limit := Nat.pow 256 (4 - before.length)
    if before.length > 3 || last ≥ limit || before.any (· > 255) then none
    else some (before.reverse.foldl (fun n octet => n * 256 + octet) 0 * limit + last)

/-- The text of a number of version 4. -/
def numberText (n : Nat) : String :=
  Ip.octetsText (Ip.octetsOf (n / 65536) (n % 65536))

/-- Reads a host and brings it into the form in which it is sent. -/
def ofText? (cs : List Char) : Option String :=
  match cs with
  | '[' :: rest =>
    if rest.getLast? = some ']' then
      (Ip.v6? rest.dropLast).map fun groups => "[" ++ Ip.compressedText groups ++ "]"
    else none
  | _ => do
    let name ← HostName.toAscii? (Percent.decodeUtf8 (Percent.decodeBytes cs))
    guard (name ≠ "")
    if endsInNumber name.toList then
      let parts ← (labels name.toList).mapM part?
      return numberText (← ofParts? parts)
    else return name

end PeriodScaler.Http.Host
