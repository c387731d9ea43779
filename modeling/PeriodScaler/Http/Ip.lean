import PeriodScaler.Text.Decimal

/-!
# Addresses of machines

Addresses of version 4, four numbers below 256 with points between them, and of version 6, eight
groups of sixteen bits. The latter are read in any of their forms and written in the canonical one:
lower case, no leading zeros, and the longest run of two zero groups or more, the first of equally
long ones, left out.

Model of the library types `Ipv4Addr` and `Ipv6Addr`.
-/

namespace PeriodScaler.Ip

/-- The value of a digit in a base up to sixteen. -/
def digitIn? (base : Nat) (c : Char) : Option Nat :=
  (Text.hexDigit? c).filter (· < base)

/-- A number in a base, of at most `most` digits and below `limit`, and what follows it. Leading
zeros are refused unless they are allowed. -/
def number? (base : Nat) (most : Option Nat) (limit : Nat) (zeros : Bool) (cs : List Char) :
    Option (Nat × List Char) :=
  let ds := cs.takeWhile fun c => (digitIn? base c).isSome
  let value := ds.foldl (fun n c => n * base + (digitIn? base c).getD 0) 0
  if ds.isEmpty || most.any (· < ds.length) || value ≥ limit then none
  else if !zeros && ds.length > 1 && ds.head? == some '0' then none
  else some (value, cs.drop ds.length)

/-- Takes one character off a text. -/
def exactly? (c : Char) : List Char → Option (List Char)
  | d :: rest => if d = c then some rest else none
  | [] => none

/-- The four numbers of an address of version 4. -/
def octets? (cs : List Char) : Option (List Nat × List Char) := do
  let (a, cs) ← number? 10 (some 3) 256 false cs
  let (b, cs) ← number? 10 (some 3) 256 false (← exactly? '.' cs)
  let (c, cs) ← number? 10 (some 3) 256 false (← exactly? '.' cs)
  let (d, cs) ← number? 10 (some 3) 256 false (← exactly? '.' cs)
  return ([a, b, c, d], cs)

/-- Groups with colons between them, `room` of them at most, and what follows. Four octets may
stand for the last two groups; that is told too. -/
def groups : (room : Nat) → (first : Bool) → List Char → List Nat × Bool × List Char
  | 0, _, cs => ([], false, cs)
  | room + 1, first, cs =>
    match (if first then some cs else exactly? ':' cs) with
    | none => ([], false, cs)
    | some rest =>
      match (if room = 0 then none else octets? rest) with
      | some ([a, b, c, d], after) => ([a * 256 + b, c * 256 + d], true, after)
      | _ =>
        match number? 16 (some 4) 65536 true rest with
        | none => ([], false, cs)
        | some (g, after) =>
          let (others, quad, after) := groups room false after
          (g :: others, quad, after)

/-- The eight groups of an address of version 6. -/
def groups? (cs : List Char) : Option (List Nat × List Char) :=
  let (head, quad, rest) := groups 8 true cs
  if head.length = 8 then some (head, rest)
  else if quad then none
  else do
    let rest ← exactly? ':' (← exactly? ':' rest)
    let (tail, _, rest) := groups (7 - head.length) true rest
    return (head ++ List.replicate (8 - head.length - tail.length) 0 ++ tail, rest)

/-- The start and length of the first longest run of zeros. -/
def longestZeros (groups : List Nat) : Nat × Nat :=
  let step (state : Nat × Nat × Nat × Nat) (g : Nat) : Nat × Nat × Nat × Nat :=
    let (i, run, start, length) := state
    if g = 0 then
      if run + 1 > length then (i + 1, run + 1, i - run, run + 1)
      else (i + 1, run + 1, start, length)
    else (i + 1, 0, start, length)
  let (_, _, start, length) := groups.foldl step (0, 0, 0, 0)
  (start, length)

/-- Groups in hexadecimal with colons between them. -/
def groupsText (groups : List Nat) : String :=
  ":".intercalate (groups.map Text.ofNatHex)

/-- Numbers with points between them. -/
def octetsText (octets : List Nat) : String :=
  ".".intercalate (octets.map Text.ofNat)

/-- Groups with the longest run of zeros left out. -/
def compressedText (groups : List Nat) : String :=
  let (start, length) := longestZeros groups
  if length > 1 then
    groupsText (groups.take start) ++ "::" ++ groupsText (groups.drop (start + length))
  else groupsText groups

/-- The four octets of two groups. -/
def octetsOf (high low : Nat) : List Nat :=
  [high / 256, high % 256, low / 256, low % 256]

/-- The canonical text of an address of version 6; the last octets of one that stands for an address
of version 4 are written as such. -/
def v6Text (groups : List Nat) : String :=
  match groups with
  | [0, 0, 0, 0, 0, 0xffff, high, low] => "::ffff:" ++ octetsText (octetsOf high low)
  | _ => compressedText groups

/-- A whole address of version 4. -/
def v4? (cs : List Char) : Option (List Nat) :=
  (octets? cs).bind fun (octets, rest) => if rest.isEmpty then some octets else none

/-- A whole address of version 6. -/
def v6? (cs : List Char) : Option (List Nat) :=
  (groups? cs).bind fun (groups, rest) => if rest.isEmpty then some groups else none

end PeriodScaler.Ip
