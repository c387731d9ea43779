/-!
# Base64

Bytes written as letters: three bytes are four letters, and the last group is filled with `=`. The
reader takes exactly what a writer gives: full groups, and no bits set that the filling stands for.

Model of how the library reads the data of a `Secret`.
-/

namespace PeriodScaler.Base64

/-- The six bits of a letter. -/
def sextet? (c : Char) : Option Nat :=
  if 'A' ≤ c ∧ c ≤ 'Z' then some (c.toNat - 65)
  else if 'a' ≤ c ∧ c ≤ 'z' then some (c.toNat - 97 + 26)
  else if '0' ≤ c ∧ c ≤ '9' then some (c.toNat - 48 + 52)
  else if c = '+' then some 62
  else if c = '/' then some 63
  else none

/-- The byte of a group of two letters. -/
def one? (a b : Char) : Option (List UInt8) := do
  let n := (← sextet? a) * 64 + (← sextet? b)
  guard (n % 16 = 0)
  return [UInt8.ofNat (n / 16)]

/-- The bytes of a group of three letters. -/
def two? (a b c : Char) : Option (List UInt8) := do
  let n := ((← sextet? a) * 64 + (← sextet? b)) * 64 + (← sextet? c)
  guard (n % 4 = 0)
  return [UInt8.ofNat (n / 1024), UInt8.ofNat (n / 4 % 256)]

/-- The bytes of a group of four letters. -/
def three? (a b c d : Char) : Option (List UInt8) := do
  let n := (((← sextet? a) * 64 + (← sextet? b)) * 64 + (← sextet? c)) * 64 + (← sextet? d)
  return [UInt8.ofNat (n / 65536), UInt8.ofNat (n / 256 % 256), UInt8.ofNat (n % 256)]

/-- The bytes of a text. -/
def decode? : List Char → Option (List UInt8)
  | [] => some []
  | [a, b, '=', '='] => one? a b
  | [a, b, c, '='] => two? a b c
  | a :: b :: c :: d :: rest => do
    let head ← three? a b c d
    let tail ← decode? rest
    return head ++ tail
  | _ => none

example : decode? "TWFu".toList = some [77, 97, 110] := by cbv

example : decode? "TQ==".toList = some [77] := by cbv

example : decode? "TR==".toList = none := by cbv

end PeriodScaler.Base64
