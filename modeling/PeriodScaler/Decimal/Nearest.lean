import PeriodScaler.Text.Decimal

/-!
# Nearest binary numbers

The binary64 number nearest to a decimal, of two equally near ones the even one.

Model of how the libraries read a `f64`.
-/

namespace PeriodScaler.Decimal

/-- The binary64 number nearest to digits · 10^power; none when it is too large. A decimal whose
size is far from every such number is not computed with. -/
def nearest? (digits : Nat) (power : Int) : Option Float :=
  let magnitude := ((Nat.toDigits 10 digits).length : Int) + power
  if digits = 0 ∨ magnitude < -330 then some 0
  else if 310 < magnitude then none
  else
    let x := Float.ofScientific digits (power < 0) power.natAbs
    if x.isInf then none else some x

/-- What some characters write: digits with a point among them, before them or behind them, and a
power of ten. They come as a whole number and the power of ten it is to be taken by; none when
there is no digit. -/
def written? (cs : List Char) : Option (Nat × Int) := do
  let whole := cs.takeWhile Text.isDigit
  let rest := cs.drop whole.length
  let (fraction, rest) :=
    match rest with
    | '.' :: rest => (rest.takeWhile Text.isDigit, rest.dropWhile Text.isDigit)
    | rest => ([], rest)
  let digits ← Text.digits? (whole ++ fraction)
  let power ←
    match rest with
    | [] => some 0
    | c :: '-' :: ds => if c = 'e' ∨ c = 'E' then (Text.digits? ds).map (- Int.ofNat ·) else none
    | c :: '+' :: ds => if c = 'e' ∨ c = 'E' then (Text.digits? ds).map Int.ofNat else none
    | c :: ds => if c = 'e' ∨ c = 'E' then (Text.digits? ds).map Int.ofNat else none
  return (digits, power - fraction.length)

/-- The number that some characters write; none when they write none, or one that is too large. -/
def read? (cs : List Char) : Option Float :=
  (written? cs).bind fun (digits, power) => nearest? digits power

end PeriodScaler.Decimal
