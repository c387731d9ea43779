import PeriodScaler.Crypto.Modular
import PeriodScaler.Hash.Sha512

/-!
# Edwards keys

Keys on the curve -x² + y² = 1 + d x² y² modulo 2²⁵⁵ - 19. A private key is a seed of 32 bytes; half
of its digest, with some bits set, is the number by which the base point is multiplied, and the
public key is the second coordinate of that point with the lowest bit of the first one on top.

Points are kept as (X : Y : Z : T) with x = X / Z, y = Y / Z and x y = T / Z, so that adding divides
nothing.

Model of how the library finds the public key of an Edwards key. Left out: the signature.
-/

namespace PeriodScaler.Crypto.Edwards

/-- The prime of the curve. -/
def prime : Nat := Nat.pow 2 255 - 19

/-- The number d of the curve. -/
def d : Nat := 0x52036cee2b6ffe738cc740797779e89800700a4d4141d8ab75eb4dca135978a3

/-- A point of the curve. -/
structure Point where
  x : Nat
  y : Nat
  z : Nat
  t : Nat
  deriving Repr

/-- The point that changes nothing when it is added. -/
def Point.zero : Point :=
  ⟨0, 1, 1, 0⟩

/-- The base point. -/
def Point.base : Point :=
  let x := 0x216936d3cd6e53fec0a4e231fdd6dc5c692cc7609525a7b2c9562d608f25d51a
  let y := 0x6666666666666666666666666666666666666666666666666666666666666658
  ⟨x, y, 1, x * y % prime⟩

/-- The sum of two points. -/
def Point.add (p q : Point) : Point :=
  let a := subMod prime p.y p.x * subMod prime q.y q.x % prime
  let b := (p.y + p.x) * (q.y + q.x) % prime
  let c := p.t * 2 * d * q.t % prime
  let g := p.z * 2 * q.z % prime
  let e := subMod prime b a
  let f := subMod prime g c
  let g := (g + c) % prime
  let h := (b + a) % prime
  ⟨e * f % prime, g * h % prime, f * g % prime, e * h % prime⟩

/-- The multiple of a point by a number of at most `bits` bits. -/
def Point.multiple (p : Point) : (bits n : Nat) → Point
  | 0, _ => .zero
  | bits + 1, n =>
    let half := p.multiple bits (n / 2)
    let twice := half.add half
    if n % 2 = 1 then twice.add p else twice

/-- The number by which the base point is multiplied for a seed: the lower half of its digest, the
lowest byte first, with the lowest three bits cleared, the highest one cleared and the next one
set. -/
def scalar (seed : List UInt8) : Nat :=
  let n := natural ((Sha512.digest seed).take 32).reverse
  Nat.pow 2 254 + n % Nat.pow 2 254 / 8 * 8

/-- The bytes of a point. -/
def Point.toBytes (p : Point) : List UInt8 :=
  let x := divMod prime p.x p.z
  let y := divMod prime p.y p.z
  (naturalToBytes 32 (y + x % 2 * Nat.pow 2 255)).reverse

/-- The public key that goes with a seed; none for a seed of another length. -/
def publicKey? (seed : List UInt8) : Option (List UInt8) :=
  if seed.length = 32 then some (Point.base.multiple 255 (scalar seed)).toBytes else none

end PeriodScaler.Crypto.Edwards
