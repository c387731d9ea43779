import PeriodScaler.Text.Decimal

/-!
# Shortest decimals

The shortest decimal that reads back as a given binary64 number, in positional notation or, for JSON,
with a power of ten where that is shorter.

A number m · 2^q is read back from every decimal between the midpoints to its neighbours, both
midpoints included when m is even. For one, two, ... seventeen digits the two decimals around the
number are tried; the first count of digits with a hit wins, and of two hits the nearer one, of two
equally near ones the even one.

Model of how the libraries write a `f64`.
-/

namespace PeriodScaler.Decimal

/-- The parts of a finite number: m and q with value m · 2^q, and whether the neighbour below is
only half as far as the one above. -/
structure Parts where
  m : Nat
  q : Int
  closeBelow : Bool

/-- How many fractions there are for an exponent. -/
def twoPow52 : Nat := 4503599627370496

/-- The parts of the number with the given bits, the sign left out; none when it is not finite. -/
def parts? (bits : Nat) : Option Parts :=
  let fraction : Nat := bits % twoPow52
  let exponent : Nat := bits / twoPow52 % 2048
  if exponent = 2047 then none
  else if exponent = 0 then some ⟨fraction, -1074, false⟩
  else some ⟨twoPow52 + fraction, (exponent : Int) - 1075, fraction == 0 && exponent != 1⟩

/-- A fraction with a positive denominator. -/
structure Ratio where
  num : Nat
  den : Nat

/-- n · base^e. -/
def Ratio.scaled (n base : Nat) (e : Int) : Ratio :=
  if 0 ≤ e then ⟨n * Nat.pow base e.toNat, 1⟩ else ⟨n, Nat.pow base (-e).toNat⟩

/-- Whether one fraction is less than another. -/
def Ratio.lt (a b : Ratio) : Bool :=
  a.num * b.den < b.num * a.den

/-- The least number of tens by which a positive fraction must be multiplied to be one or more. -/
def leadingZeros (r : Ratio) : Nat → Nat → Nat
  | 0, j => j
  | fuel + 1, j => if r.num * Nat.pow 10 j ≥ r.den then j else leadingZeros r fuel (j + 1)

/-- The power of ten of the first digit of a positive fraction. -/
def magnitude (r : Ratio) : Int :=
  if r.num ≥ r.den then ((Nat.toDigits 10 (r.num / r.den)).length : Int) - 1
  else - (leadingZeros r 400 0 : Int)

/-- The decimal c · 10^k of `n` digits that reads back as the number, if there is one. -/
def withDigits? (p : Parts) (n : Nat) : Option (Nat × Int) :=
  let value := Ratio.scaled (4 * p.m) 2 (p.q - 2)
  let low := Ratio.scaled (4 * p.m - (if p.closeBelow then 1 else 2)) 2 (p.q - 2)
  let high := Ratio.scaled (4 * p.m + 2) 2 (p.q - 2)
  let k : Int := magnitude value - n + 1
  let at_ (c : Nat) : Ratio := Ratio.scaled c 10 k
  let unit := at_ 1
  let c := value.num * unit.den / (value.den * unit.num)
  let hits (c : Nat) : Bool :=
    if p.m % 2 = 0 then !(at_ c).lt low && !high.lt (at_ c)
    else low.lt (at_ c) && (at_ c).lt high
  -- Twice the number less the sum of the two candidates tells which is nearer.
  let twice : Ratio := ⟨2 * value.num, value.den⟩
  let sum := at_ (2 * c + 1)
  if hits c && hits (c + 1) then
    if twice.lt sum then some (c, k)
    else if sum.lt twice then some (c + 1, k)
    else some (if c % 2 = 0 then c else c + 1, k)
  else if hits c then some (c, k)
  else if hits (c + 1) then some (c + 1, k)
  else none

/-- The first of some counts of digits with a decimal that reads back. -/
def search (p : Parts) : List Nat → Nat × Int
  | [] => (0, 0)
  | n :: rest => (withDigits? p n).getD (search p rest)

/-- The digits of c · 10^k with a point where it is needed. -/
def positional (c : Nat) (k : Int) : String :=
  let ds := Nat.toDigits 10 c
  if 0 ≤ k then String.ofList (ds ++ List.replicate k.toNat '0')
  else
    let places := (-k).toNat
    let filled := List.replicate (places + 1 - ds.length) '0' ++ ds
    let whole := filled.take (filled.length - places)
    let fraction := filled.drop (filled.length - places)
    let shown := (fraction.reverse.dropWhile (· == '0')).reverse
    String.ofList (whole ++ (if shown.isEmpty then [] else '.' :: shown))

/-- The digits of c · 10^k with a point behind the first one and the power of ten behind `e`. -/
def scientific (c : Nat) (k : Int) : String :=
  match Nat.toDigits 10 c with
  | [] => "0"
  | d :: rest =>
    let power := Text.ofInt (k + rest.length)
    String.ofList (d :: (if rest.isEmpty then [] else '.' :: rest)) ++ "e" ++ power

/-- The digits of c · 10^k in the form that is easier to read: positional, with a fraction always,
unless the point is more than sixteen digits behind the first digit or more than five before it. -/
def readable (c : Nat) (k : Int) : String :=
  let point := (Nat.toDigits 10 c).length + k
  if point ≤ -5 ∨ 16 < point then scientific c k
  else positional c k ++ (if 0 ≤ k then ".0" else "")

/-- The shortest decimal of the finite number with the given bits, as JSON writes numbers that are
not whole. -/
def jsonOfBits (bits : Nat) : String :=
  let sign := if bits / 9223372036854775808 % 2 = 1 then "-" else ""
  match parts? bits with
  | none => "null"
  | some p =>
    if p.m = 0 then sign ++ "0.0"
    else
      let (c, k) := search p ((List.range 17).map (· + 1))
      sign ++ readable c k

/-- The shortest decimal of the number with the given bits. -/
def ofBits (bits : Nat) : String :=
  let sign := if bits / 9223372036854775808 % 2 = 1 then "-" else ""
  match parts? bits with
  | none => if bits % twoPow52 = 0 then sign ++ "inf" else "NaN"
  | some p =>
    if p.m = 0 then sign ++ "0"
    else
      let (c, k) := search p ((List.range 17).map (· + 1))
      sign ++ positional c k

/-- The shortest decimal of a number. -/
def ofFloat (x : Float) : String :=
  ofBits x.toBits.toNat

example : ofBits 0x3FF0000000000000 = "1" := by decide +kernel

example : ofBits 0x3FA999999999999A = "0.05" := by decide +kernel

end PeriodScaler.Decimal
