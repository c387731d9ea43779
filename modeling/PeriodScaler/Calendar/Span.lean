import PeriodScaler.Calendar.Clock
import PeriodScaler.Fault

/-!
# Spans of time

A span is a whole number of nanoseconds, none of them negative. The longest one has
18446744073709551615 seconds and 999999999 nanoseconds; a sum beyond it is a fault.

Model of the library type `Duration` with the sums, the minimum and the `Debug` text that the
program uses.
-/

namespace PeriodScaler

/-- A length of time in nanoseconds. -/
structure Span where
  nanos : Nat
  deriving DecidableEq, Repr, Inhabited

namespace Span

/-- No time at all. -/
def zero : Span := ⟨0⟩

/-- A number of seconds. -/
def ofSeconds (n : Nat) : Span :=
  ⟨n * 1000000000⟩

/-- A number of milliseconds. -/
def ofMillis (n : Nat) : Span :=
  ⟨n * 1000000⟩

/-- The whole seconds of a span. -/
def seconds (s : Span) : Nat :=
  s.nanos / 1000000000

/-- The nanoseconds beyond the whole seconds. -/
def subsecond (s : Span) : Nat :=
  s.nanos % 1000000000

/-- Whether a span is no time at all. -/
def isZero (s : Span) : Bool :=
  s.nanos == 0

/-- Whether a span can be represented: its seconds fit 64 bits. -/
def inRange (s : Span) : Bool :=
  s.seconds ≤ Text.maxWord64

/-- The sum of two spans, a fault when it is too long. -/
def add (a b : Span) : Except Fault Span :=
  let sum : Span := ⟨a.nanos + b.nanos⟩
  if sum.inRange then .ok sum else .error .span

/-- The shorter of two spans. -/
def min (a b : Span) : Span :=
  if a.nanos ≤ b.nanos then a else b

/-- Seconds and nine digits of nanoseconds. -/
def preciseText (s : Span) : String :=
  Text.ofNat s.seconds ++ "." ++ Text.padded 9 s.subsecond

/-- A fraction of `places` digits without the zeros at its end; empty when nothing is left. -/
def fractionText (places n : Nat) : String :=
  let ds := ((Text.padded places n).toList.reverse.dropWhile (· == '0')).reverse
  if ds.isEmpty then "" else "." ++ String.ofList ds

/-- A short text: the largest unit of which there is at least one, with as many decimals as are
needed. -/
def text (s : Span) : String :=
  if s.seconds > 0 then Text.ofNat s.seconds ++ fractionText 9 s.subsecond ++ "s"
  else if s.nanos ≥ 1000000 then
    Text.ofNat (s.nanos / 1000000) ++ fractionText 6 (s.nanos % 1000000) ++ "ms"
  else if s.nanos ≥ 1000 then
    Text.ofNat (s.nanos / 1000) ++ fractionText 3 (s.nanos % 1000) ++ "µs"
  else Text.ofNat s.nanos ++ "ns"

theorem add_eq_ok {a b c : Span} : a.add b = .ok c ↔
    c.nanos = a.nanos + b.nanos ∧ c.seconds ≤ Text.maxWord64 := by
  have hsum : ∀ s : Span, s.inRange = true ↔ s.seconds ≤ Text.maxWord64 := by simp [inRange]
  obtain ⟨n⟩ := c
  by_cases hr : (Span.mk (a.nanos + b.nanos)).inRange = true
  · have hr' := (hsum _).1 hr
    simp only [add, hr, if_true, Except.ok.injEq, Span.mk.injEq]
    constructor
    · rintro rfl
      exact ⟨rfl, hr'⟩
    · exact fun h => h.1.symm
  · simp only [add, hr]
    constructor
    · simp
    · rintro ⟨h, hn⟩
      subst h
      exact absurd ((hsum _).2 hn) hr

end Span

end PeriodScaler
