import PeriodScaler.Crypto.Element

/-!
# RSA keys

The private key of an RSA key pair: a modulus, which is the product of two primes of half its length,
a public and a private exponent, and what makes signing fast. A key is checked before it signs, as
far as that can be done without factoring, and the checks come in a fixed order: of several faults
the first is told.

Model of the checks that the library's `KeyPair` makes of an RSA key. Left out: the signature.
-/

namespace PeriodScaler.Crypto

/-- What is wrong with a private key. -/
inductive RsaFault where
  | invalidEncoding
  | versionNotSupported
  | tooSmall
  | tooLarge
  | invalidComponent
  | inconsistentComponents
  /-- The length of a prime is no multiple of 512 bits. -/
  | oddPrimeLength
  /-- A number is far too short for its part. -/
  | unexpected
  deriving DecidableEq, Repr

/-- How a fault is told. -/
def RsaFault.name : RsaFault → String
  | invalidEncoding => "InvalidEncoding"
  | versionNotSupported => "VersionNotSupported"
  | tooSmall => "TooSmall"
  | tooLarge => "TooLarge"
  | invalidComponent => "InvalidComponent"
  | inconsistentComponents => "InconsistentComponents"
  | oddPrimeLength => "PrivateModulusLenNotMultipleOf512Bits"
  | unexpected => "UnexpectedError"

/-- The numbers of a key as bytes. -/
structure RsaParts where
  modulus : List UInt8
  publicExponent : List UInt8
  privateExponent : List UInt8
  primes : List UInt8 × List UInt8
  /-- The private exponent for each prime. -/
  exponents : List UInt8 × List UInt8
  /-- The inverse of the second prime modulo the first one. -/
  inverse : List UInt8
  deriving Repr

/-- A private key. -/
structure RsaKey where
  modulus : Nat
  publicExponent : Nat
  privateExponent : Nat
  primes : Nat × Nat
  exponents : Nat × Nat
  inverse : Nat
  deriving DecidableEq, Repr

namespace RsaKey

/-- Refuses a key with a fault unless a condition holds. -/
def need (condition : Bool) (fault : RsaFault) : Except RsaFault Unit :=
  if condition then .ok () else .error fault

/-- The fewest and the most bits of a modulus. -/
def leastBits : Nat := 2048
def mostBits : Nat := 4096

/-- Reads a number that others are taken modulo: it must be odd and have a sensible length. -/
def modulus? (bytes : List UInt8) : Except RsaFault Nat := do
  let words := (bytes.length + 7) / 8
  need (4 ≤ words) .unexpected
  need (words ≤ 128) .tooLarge
  let n := natural bytes
  need (n % 2 == 1) .invalidComponent
  return n

/-- Reads the modulus of a key. -/
def publicModulus? (bytes : List UInt8) : Except RsaFault Nat := do
  let n ← modulus? bytes
  need (leastBits ≤ (bitLength n + 7) / 8 * 8) .tooSmall
  need (bitLength n ≤ mostBits) .tooLarge
  return n

/-- Reads the public exponent of a key. -/
def publicExponent? (bytes : List UInt8) : Except RsaFault Nat := do
  need (bytes.length ≤ 5) .tooLarge
  need (bytes.head? != some 0) .invalidEncoding
  let e := natural bytes
  need (65537 ≤ e) .tooSmall
  need (e < 8589934592) .tooLarge
  need (e % 2 == 1) .invalidComponent
  return e

/-- Reads a prime of a key whose modulus has some number of bits; whether it is one is not
tested. -/
def prime? (modulusBits : Nat) (bytes : List UInt8) : Except RsaFault Nat := do
  let p ← modulus? bytes
  need (bitLength p == (modulusBits + 1) / 2) .inconsistentComponents
  need (bitLength p % 512 == 0) .oddPrimeLength
  return p

/-- Reads the private exponent of a key. -/
def privateExponent? (n : Nat) (bytes : List UInt8) : Except RsaFault Nat := do
  let d ← (modulus? bytes).mapError fun _ => .invalidComponent
  need ((bitLength n + 1) / 2 < bitLength d) .inconsistentComponents
  need (d < n) .inconsistentComponents
  return d

/-- Reads the private exponent for a prime. -/
def primeExponent? (p : Nat) (bytes : List UInt8) : Except RsaFault Nat := do
  let d := natural bytes
  need (d < p && d % 2 == 1) .inconsistentComponents
  return d

/-- The key with some numbers. -/
def ofParts (parts : RsaParts) : Except RsaFault RsaKey := do
  let n ← publicModulus? parts.modulus
  let e ← publicExponent? parts.publicExponent
  let p ← prime? (bitLength n) parts.primes.1
  let q ← prime? (bitLength n) parts.primes.2
  need (p * q % n == 0) .inconsistentComponents
  let d ← privateExponent? n parts.privateExponent
  let inverse := natural parts.inverse
  need (inverse < p) .invalidComponent
  need (inverse * q % p == 1) .inconsistentComponents
  let dP ← primeExponent? p parts.exponents.1
  let dQ ← primeExponent? q parts.exponents.2
  return ⟨n, e, d, (p, q), (dP, dQ), inverse⟩

/-- The next number in the encoding of a key, and what follows it. -/
def next (bytes : List UInt8) : Except RsaFault (List UInt8 × List UInt8) :=
  match naturalBytes? bytes with
  | some result => .ok result
  | none => .error .invalidEncoding

/-- The key in the content of its sequence. -/
def ofContent (bytes : List UInt8) : Except RsaFault RsaKey :=
  match smallNatural? bytes with
  | none => .error .invalidEncoding
  | some (version, rest) => do
    need (version == 0) .versionNotSupported
    let (n, rest) ← next rest
    let (e, rest) ← next rest
    let (d, rest) ← next rest
    let (p, rest) ← next rest
    let (q, rest) ← next rest
    let (dP, rest) ← next rest
    let (dQ, rest) ← next rest
    let (inverse, rest) ← next rest
    let key ← ofParts ⟨n, e, d, (p, q), (dP, dQ), inverse⟩
    need rest.isEmpty .invalidEncoding
    return key

/-- Reads a key. -/
def ofBytes (bytes : List UInt8) : Except RsaFault RsaKey :=
  match expect? sequenceTag bytes with
  | none => .error .invalidEncoding
  | some (content, rest) => do
    let key ← ofContent content
    need rest.isEmpty .invalidEncoding
    return key

/-- Whether what the key signs is what its public half expects: for each prime, the exponents undo
each other. -/
def isConsistent (k : RsaKey) : Bool :=
  let undoes (d p : Nat) : Bool := k.publicExponent * d % (p - 1) == 1
  undoes k.exponents.1 k.primes.1 && undoes k.exponents.2 k.primes.2

end RsaKey

end PeriodScaler.Crypto
