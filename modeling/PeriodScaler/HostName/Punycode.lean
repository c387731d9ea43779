/-!
# Labels written in ASCII

Characters beyond ASCII, written as numbers behind the ASCII characters of a label. Each number says
how far the next insertion is from the one before, in the order of the characters and then of their
places. A number is a row of digits of base 36 whose thresholds follow the size of the numbers before.

Model of the encoding step of `domain_to_ascii`.
-/

namespace PeriodScaler.Punycode

/-- The most characters that are written or read. -/
def maxWritten : Nat := 1000
def maxRead : Nat := 2000

/-- The largest number that may come up. -/
def maxNumber : Nat := 4294967295

/-- The character of a digit. -/
def digit (d : Nat) : Nat :=
  if d < 26 then 0x61 + d else 0x30 + (d - 26)

/-- The digit of a character. -/
def digit? (n : Nat) : Option Nat :=
  if 0x61 ≤ n ∧ n ≤ 0x7A then some (n - 0x61)
  else if 0x41 ≤ n ∧ n ≤ 0x5A then some (n - 0x41)
  else if 0x30 ≤ n ∧ n ≤ 0x39 then some (n - 0x30 + 26)
  else none

/-- The threshold of the digit with the weight index `k`. -/
def threshold (k bias : Nat) : Nat :=
  if k ≤ bias + 1 then 1 else if bias + 26 ≤ k then 26 else k - bias

theorem threshold_pos (k bias : Nat) : 1 ≤ threshold k bias := by
  unfold threshold
  split
  · omega
  · split <;> omega

theorem threshold_le (k bias : Nat) : threshold k bias ≤ 26 := by
  unfold threshold
  split
  · omega
  · split <;> omega

/-- Brings a number into the range of one digit, and counts the steps. -/
def shrink (delta k : Nat) : Nat × Nat :=
  if 455 < delta then shrink (delta / 35) (k + 36) else (delta, k)
termination_by delta
decreasing_by exact Nat.div_lt_self (by omega) (by omega)

/-- The bias after a number; `count` characters stand in the label then. -/
def adapt (delta count : Nat) (first : Bool) : Nat :=
  let delta := if first then delta / 700 else delta / 2
  let (delta, k) := shrink (delta + delta / count) 0
  k + 36 * delta / (delta + 38)

/-- The digits of a number. -/
def digits (bias k q : Nat) : List Nat :=
  let t := threshold k bias
  if q < t then [digit q]
  else digit (t + (q - t) % (36 - t)) :: digits bias (k + 36) ((q - t) / (36 - t))
termination_by q
decreasing_by
  have := threshold_pos k bias
  have := threshold_le k bias
  calc (q - threshold k bias) / (36 - threshold k bias)
      ≤ q - threshold k bias := Nat.div_le_self _ _
    _ < q := by omega

/-- How far the writing of a label has come. -/
structure Writing where
  /-- What has been written, the last one first. -/
  written : List Nat
  delta : Nat
  bias : Nat
  /-- How many characters have been dealt with. -/
  count : Nat
  /-- Whether none of them was written as a number. -/
  first : Bool

/-- Passes a place of the label while the character `n` is inserted. -/
def Writing.pass (n : Nat) (w : Writing) (m : Nat) : Writing :=
  if m < n then { w with delta := w.delta + 1 }
  else if m = n then
    { written := (digits w.bias 36 w.delta).reverse ++ w.written
      delta := 0
      bias := adapt w.delta (w.count + 1) w.first
      count := w.count + 1
      first := false }
  else w

/-- Inserts characters, each of them wherever it stands; `next` is the first that might. -/
def Writing.insertAll (label : List Nat) (next : Nat) (w : Writing) : List Nat → Writing
  | [] => w
  | n :: rest =>
    let w := { w with delta := w.delta + (n - next) * (w.count + 1) }
    let w := label.foldl (Writing.pass n) w
    Writing.insertAll label (n + 1) { w with delta := w.delta + 1 } rest

/-- A label in ASCII, without the mark that tells so. -/
def encode? (label : List Nat) : Option (List Nat) :=
  if label.length > maxWritten then none
  else
    let basic := label.filter (· < 128)
    let others := ((label.filter (128 ≤ ·)).mergeSort (· ≤ ·)).eraseDups
    let lead := if basic.isEmpty then [] else basic ++ [0x2D]
    let w := Writing.insertAll label 128 ⟨[], 0, 72, basic.length, true⟩ others
    some (lead ++ w.written.reverse)

/-- Reads a number that is added to `i`: the sum and what follows. -/
def number? (bias : Nat) : List Nat → Nat → Nat → Nat → Option (Nat × List Nat)
  | [], _, _, _ => none
  | c :: rest, k, weight, i =>
    match digit? c with
    | none => none
    | some d =>
      let sum := i + d * weight
      let t := threshold k bias
      if sum > maxNumber then none
      else if d < t then some (sum, rest)
      else if weight * (36 - t) > maxNumber then none
      else number? bias rest (k + 36) (weight * (36 - t)) sum

/-- A number leaves less to read. -/
theorem length_of_number? {bias : Nat} {cs : List Nat} {k weight i sum : Nat} {rest : List Nat}
    (h : number? bias cs k weight i = some (sum, rest)) : rest.length < cs.length := by
  induction cs generalizing k weight i with
  | nil => simp [number?] at h
  | cons c cs ih =>
    simp only [number?] at h
    split at h
    · cases h
    · split at h
      · cases h
      · split at h
        · cases h
          simp
        · split at h
          · cases h
          · exact Nat.lt_trans (ih h) (by simp)

/-- Whether a number is that of a character. -/
def isCharacter (n : Nat) : Bool :=
  n < 0xD800 || (0xDFFF < n && n < 0x110000)

/-- Reads insertions into a label. The one before left off at the place `i` with the character `n`,
and only before the first is that the start. -/
def insertions? (cs label : List Nat) (n i bias : Nat) : Option (List Nat) :=
  if cs.isEmpty then some label
  else
    match _read : number? bias cs 36 1 i with
    | none => none
    | some (sum, rest) =>
      let count := label.length + 1
      let n := n + sum / count
      let place := sum % count
      if !isCharacter n then none
      else
        insertions? rest (label.take place ++ n :: label.drop place) n (place + 1)
          (adapt (sum - i) count (i == 0))
termination_by cs.length
decreasing_by exact length_of_number? (by assumption)

/-- The label that a text in ASCII stands for. The last hyphen parts it, unless it comes first. -/
def decode? (cs : List Nat) : Option (List Nat) :=
  if cs.length > maxRead then none
  else
    let tail := (cs.reverse.takeWhile (· ≠ 0x2D)).reverse
    match cs.take (cs.length - tail.length) with
    | [] => insertions? cs [] 128 0 72
    | [_] => none
    | lead => if lead.all (· < 128) then insertions? tail lead.dropLast 128 0 72 else none

end PeriodScaler.Punycode
