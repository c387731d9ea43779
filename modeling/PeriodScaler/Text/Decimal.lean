import PeriodScaler.Text.Blank

/-!
# Decimal numbers in text

Reading and writing of whole numbers in base ten. A signed reader takes one optional sign, an
unsigned reader one optional `+`; both want at least one digit, nothing else, and a value inside
the bounds that the caller names.

Model of the library's `parse` for `i32`, `i64`, `u32` and `u64`, and of how these are shown.
-/

namespace PeriodScaler.Text

/-- The value of an ASCII digit. -/
def digit? (c : Char) : Option Nat :=
  if '0' ≤ c ∧ c ≤ '9' then some (c.toNat - '0'.toNat) else none

/-- Whether a character is an ASCII digit. -/
def isDigit (c : Char) : Bool :=
  (digit? c).isSome

/-- The value of a run of digits continuing the number `acc`; none at any other character. -/
def digitsFrom (acc : Nat) : List Char → Option Nat
  | [] => some acc
  | c :: cs => do digitsFrom (acc * 10 + (← digit? c)) cs

/-- The value of a non-empty run of digits. -/
def digits? : List Char → Option Nat
  | [] => none
  | cs => digitsFrom 0 cs

/-- A whole number with an optional sign, within `lo` and `hi`. -/
def int? (lo hi : Int) (cs : List Char) : Option Int := do
  let value ← match cs with
    | '+' :: ds => (digits? ds).map Int.ofNat
    | '-' :: ds => (digits? ds).map fun n => - Int.ofNat n
    | ds => (digits? ds).map Int.ofNat
  if lo ≤ value ∧ value ≤ hi then some value else none

/-- A whole number with an optional `+`, at most `hi`. -/
def nat? (hi : Nat) (cs : List Char) : Option Nat := do
  let value ← match cs with
    | '+' :: ds => digits? ds
    | ds => digits? ds
  if value ≤ hi then some value else none

/-- A signed number of 32 bits. -/
def int32? (cs : List Char) : Option Int :=
  int? (-2147483648) 2147483647 cs

/-- The largest number of 64 bits. -/
def maxWord64 : Nat := 18446744073709551615

/-- The largest number of 32 bits. -/
def maxWord32 : Nat := 4294967295

/-- The decimal digits of a number. -/
def ofNat (n : Nat) : String :=
  String.ofList (Nat.toDigits 10 n)

/-- The decimal form of a whole number, with `-` in front of a negative one. -/
def ofInt : Int → String
  | .ofNat n => ofNat n
  | .negSucc n => "-" ++ ofNat (n + 1)

/-- The decimal digits of a number, filled up with zeros in front to `width` places. -/
def padded (width n : Nat) : String :=
  let ds := Nat.toDigits 10 n
  String.ofList (List.replicate (width - ds.length) '0' ++ ds)

/-- The value of a hexadecimal digit of either case. -/
def hexDigit? (c : Char) : Option Nat :=
  if '0' ≤ c ∧ c ≤ '9' then some (c.toNat - '0'.toNat)
  else if 'a' ≤ c ∧ c ≤ 'f' then some (c.toNat - 'a'.toNat + 10)
  else if 'A' ≤ c ∧ c ≤ 'F' then some (c.toNat - 'A'.toNat + 10)
  else none

/-- The lower-case hexadecimal digit of a number below sixteen. -/
def hexDigit (n : Nat) : Char :=
  if n < 10 then Char.ofNat ('0'.toNat + n) else Char.ofNat ('a'.toNat + (n - 10))

/-- The lower-case hexadecimal digits of a number, without leading zeros. -/
def ofNatHex (n : Nat) : String :=
  String.ofList (Nat.toDigits 16 n)

end PeriodScaler.Text
