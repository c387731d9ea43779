import PeriodScaler.Decimal.Shortest
import PeriodScaler.Json.Basic

/-!
# Values as they are kept

A value that is kept and written again, without a rule that says what is in it. The fields of its
objects are ordered by name. A number is kept as a whole number if it is written as one and fits into
64 bits, and as a binary64 number otherwise; one that is too large for that cannot be kept.

Model of the JSON library's `Value`, where the program or a library keeps one.
-/

namespace PeriodScaler.Json

/-- A number while it is read: the digits that count, and the power of ten. -/
structure Scaled where
  digits : Nat
  power : Int

/-- Takes up the whole part of a number. Once the digits no longer fit into 64 bits, those that
follow count as zeros. -/
def Scaled.ofWhole (s : Scaled) : List Nat → Scaled
  | [] => s
  | d :: rest =>
    if s.digits * 10 + d ≤ Text.maxWord64 then
      Scaled.ofWhole { s with digits := s.digits * 10 + d } rest
    else { s with power := s.power + (rest.length + 1) }

/-- Takes up the fraction of a number. Once the digits no longer fit into 64 bits, those that follow
do not count. -/
def Scaled.ofFraction (s : Scaled) : List Nat → Scaled
  | [] => s
  | d :: rest =>
    if s.digits * 10 + d ≤ Text.maxWord64 then
      Scaled.ofFraction ⟨s.digits * 10 + d, s.power - 1⟩ rest
    else s

/-- A power of ten. -/
def tenTo (n : Nat) : Float :=
  Float.ofScientific 1 false n

/-- The quotient by a power of ten, in steps of 308 digits; `steps` bounds their number. -/
def divideByTens : Nat → Float → Nat → Float
  | 0, x, n => x / tenTo n
  | steps + 1, x, n =>
    if n ≤ 308 then x / tenTo n
    else if x == 0 then x
    else divideByTens steps (x / tenTo 308) (n - 308)

/-- The binary64 number next to the digits, multiplied or divided by the power of ten; none when it
is too large. -/
def Scaled.toFloat? (s : Scaled) : Option Float :=
  let x := s.digits.toUInt64.toFloat
  if 0 ≤ s.power then
    if 308 < s.power then if s.digits = 0 then some x else none
    else
      let product := x * tenTo s.power.toNat
      if product.isInf then none else some product
  else some (divideByTens 8 x (-s.power).toNat)

/-- The digits that a run of characters writes, and what follows them. -/
def digitRun (cs : List Char) : List Nat × List Char :=
  ((cs.takeWhile Text.isDigit).filterMap Text.digit?, cs.dropWhile Text.isDigit)

/-- The power of ten behind the letter for it, as far as it matters. -/
def writtenPower (cs : List Char) : Int :=
  match cs.drop 1 with
  | '-' :: ds => - (((Text.digits? ds).getD 0 : Nat) : Int)
  | '+' :: ds => (Text.digits? ds).getD 0
  | ds => (Text.digits? ds).getD 0

/-- The number of a literal that is kept. -/
def settledNumber? (literal : String) : Option String := do
  let cs := literal.toList
  let negative := cs.head? == some '-'
  let (whole, rest) := digitRun (if negative then cs.drop 1 else cs)
  let exact := whole.foldl (fun n d => n * 10 + d) 0
  if rest.isEmpty && (if negative then 0 < exact && exact ≤ 9223372036854775808
      else exact ≤ Text.maxWord64) then
    return literal
  else
    let read := Scaled.ofWhole ⟨0, 0⟩ whole
    let (read, rest) :=
      match rest with
      | '.' :: rest =>
        let (fraction, rest) := digitRun rest
        (read.ofFraction fraction, rest)
      | rest => (read, rest)
    let x ← ({ read with power := read.power + writtenPower rest } : Scaled).toFloat?
    return Decimal.jsonOfBits (if negative then -x else x).toBits.toNat

mutual

/-- A value as it is kept; `depth` bounds how far lists and objects may hold one another. -/
def settled? : Nat → Json → Option Json
  | _, .null => some .null
  | _, .bool b => some (.bool b)
  | _, .text s => some (.text s)
  | _, .number literal => (settledNumber? literal).map .number
  | 0, .array _ => none
  | 0, .object _ => none
  | depth + 1, .array items => (settledItems? depth items).map .array
  | depth + 1, .object fields => (settledFields? depth [] fields).map .object
  | _, .unreadable => none

/-- The items of a list as they are kept. -/
def settledItems? (depth : Nat) : List Json → Option (List Json)
  | [] => some []
  | item :: rest => do return (← settled? depth item) :: (← settledItems? depth rest)

/-- The fields of an object as they are kept, gathered in order of names. -/
def settledFields? (depth : Nat) (done : List (String × Json)) :
    List (String × Json) → Option (List (String × Json))
  | [] => some done
  | (name, value) :: rest => do
    settledFields? depth (insertSorted name (← settled? depth value) done) rest

end

end PeriodScaler.Json
