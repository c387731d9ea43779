import PeriodScaler.Crypto.Element

/-!
# Arithmetic modulo a prime

Powers, differences and quotients of numbers modulo a prime. A quotient by a number that the prime
divides is zero.

Model of the arithmetic behind the library's elliptic curves.
-/

namespace PeriodScaler.Crypto

/-- The power `base ^ e` modulo `p`, for an exponent of at most `bits` bits. -/
def powerMod (p base : Nat) : (bits e : Nat) → Nat
  | 0, _ => 1 % p
  | bits + 1, e =>
    let half := powerMod p base bits (e / 2)
    let square := half * half % p
    if e % 2 = 1 then square * base % p else square

/-- The difference of two numbers below `p`, modulo `p`. -/
def subMod (p a b : Nat) : Nat :=
  (a + (p - b)) % p

/-- The quotient of two numbers modulo the prime `p`. -/
def divMod (p a b : Nat) : Nat :=
  a * powerMod p b (bitLength p) (p - 2) % p

end PeriodScaler.Crypto
