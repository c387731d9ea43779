/-!
# Faults

A computation that leaves the range of its numbers. A fault is no error of the domain: nothing
catches it, and the work at hand ends without an answer.

Model of the places where the program panics: dates out of range, a text cut inside a character, a
sum of durations that is too long. Left out: exhausted memory, and faults inside of the libraries.
-/

namespace PeriodScaler

/-- The ways in which a computation leaves its range. -/
inductive Fault where
  /-- A date before the first or after the last one. -/
  | date
  /-- A span of time longer than the longest one. -/
  | span
  /-- A cut of a text inside a character. -/
  | cut
  deriving DecidableEq, Repr

end PeriodScaler
