import PeriodScaler.Crypto.Modular

/-!
# Elliptic curves

The two standard curves y² = x³ - 3x + b over a prime that keys are on. A private key is a number
below the order of the curve's base point, and the public key that goes with it is that multiple of
the base point. Adding points does not need b.

Model of how the library finds the public key of an elliptic curve key. Left out: the signature.
-/

namespace PeriodScaler.Crypto

/-- A curve y² = x³ - 3x + b with its base point. -/
structure EllipticCurve where
  /-- The encoded identifier. -/
  identifier : List UInt8
  prime : Nat
  /-- The order of the base point. -/
  order : Nat
  base : Nat × Nat
  /-- The number of bytes of a coordinate. -/
  width : Nat
  deriving Repr

namespace EllipticCurve

/-- The curve of 256 bits. -/
def p256 : EllipticCurve where
  identifier := [0x06, 0x08, 0x2a, 0x86, 0x48, 0xce, 0x3d, 0x03, 0x01, 0x07]
  prime := 0xffffffff00000001000000000000000000000000ffffffffffffffffffffffff
  order := 0xffffffff00000000ffffffffffffffffbce6faada7179e84f3b9cac2fc632551
  base :=
    (0x6b17d1f2e12c4247f8bce6e563a440f277037d812deb33a0f4a13945d898c296,
      0x4fe342e2fe1a7f9b8ee7eb4a7c0f9e162bce33576b315ececbb6406837bf51f5)
  width := 32

/-- The curve of 384 bits. -/
def p384 : EllipticCurve where
  identifier := [0x06, 0x05, 0x2b, 0x81, 0x04, 0x00, 0x22]
  prime := Nat.pow 2 384 - Nat.pow 2 128 - Nat.pow 2 96 + Nat.pow 2 32 - 1
  order :=
    0xffffffffffffffffffffffffffffffffffffffffffffffff * Nat.pow 2 192 +
      0xc7634d81f4372ddf581a0db248b0a77aecec196accc52973
  base :=
    (0xaa87ca22be8b05378eb1c71ef320ad746e1d3b628ba79b98 * Nat.pow 2 192 +
        0x59f741e082542a385502f25dbf55296c3a545e3872760ab7,
      0x3617de4a96262c6f5d9e98bf9292dc29f8f41dbd289a147c * Nat.pow 2 192 +
        0xe9da3113b5f0b8c00a60b1ce1d7e819d7a431d7c90ea0e5f)
  width := 48

/-- The sum of two points; the point at infinity is none. -/
def add (c : EllipticCurve) : Option (Nat × Nat) → Option (Nat × Nat) → Option (Nat × Nat)
  | none, q => q
  | p, none => p
  | some (x, y), some (u, v) =>
    let p := c.prime
    if x = u ∧ (y + v) % p = 0 then none
    else
      let slope :=
        if x = u then divMod p (3 * subMod p (x * x % p) 1) (2 * y % p)
        else divMod p (subMod p v y) (subMod p u x)
      let w := subMod p (subMod p (slope * slope % p) x) u
      some (w, subMod p (slope * subMod p x w % p) y)

/-- The multiple of a point by a number of at most `bits` bits. -/
def multiple (c : EllipticCurve) (point : Option (Nat × Nat)) : (bits n : Nat) → Option (Nat × Nat)
  | 0, _ => none
  | bits + 1, n =>
    let half := c.multiple point bits (n / 2)
    let twice := c.add half half
    if n % 2 = 1 then c.add twice point else twice

/-- The public key that goes with a private one: a mark and both coordinates. None for a private key
that has not the width of a coordinate, is zero, or is not below the order. -/
def publicKey? (c : EllipticCurve) (secret : List UInt8) : Option (List UInt8) := do
  let n := natural secret
  guard (secret.length = c.width ∧ 0 < n ∧ n < c.order)
  let (x, y) ← c.multiple (some c.base) (8 * c.width) n
  return 4 :: naturalToBytes c.width x ++ naturalToBytes c.width y

end EllipticCurve

end PeriodScaler.Crypto
