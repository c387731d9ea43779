/-!
# Runs of characters

Properties of characters, as tables of runs: neighbouring characters that share a property, with the
numbers that belong to it. A table is sorted, and its runs do not meet, so one is found by halving.

A table is written as words with commas between them and numbers in base sixteen: the distance of a
run from the end of the one before, `.` and how many more characters it has when there are any, and
`:` before each of its numbers. Blanks and line breaks do not count.
-/

namespace PeriodScaler.Text

/-- Characters, by number, that share a property. -/
structure Run where
  first : Nat
  last : Nat
  values : List Nat
  deriving Repr, Inhabited

/-- Which number of a word is being read. -/
inductive Run.Part where
  | gap | length | value

/-- How far the reading of a table has come. -/
structure Run.Reading where
  /-- The end of the last run. -/
  last : Nat
  /-- The numbers of the word so far, the last one first, and the one being read. -/
  gap : Nat
  length : Nat
  values : List Nat
  number : Nat
  part : Run.Part
  runs : Array Run

/-- Puts the number that has been read where it belongs. -/
def Run.Reading.settle (r : Run.Reading) : Run.Reading :=
  match r.part with
  | .gap => { r with gap := r.number, number := 0 }
  | .length => { r with length := r.number, number := 0 }
  | .value => { r with values := r.number :: r.values, number := 0 }

/-- Ends a word. -/
def Run.Reading.close (r : Run.Reading) : Run.Reading :=
  let r := r.settle
  let first := r.last + r.gap
  let last := first + r.length
  { last := last, gap := 0, length := 0, values := [], number := 0, part := .gap
    runs := r.runs.push ⟨first, last, r.values.reverse⟩ }

/-- Reads on by one character. -/
def Run.Reading.step (r : Run.Reading) (c : Char) : Run.Reading :=
  if c = ' ' ∨ c = '\n' then r
  else if c = ',' then r.close
  else if c = '.' then { r.settle with part := .length }
  else if c = ':' then { r.settle with part := .value }
  else
    let digit := if c ≤ '9' then c.toNat - '0'.toNat else c.toNat - 'a'.toNat + 10
    { r with number := 16 * r.number + digit }

/-- The table that a text writes. -/
def Run.table (text : String) : Array Run :=
  (text.foldl Run.Reading.step ⟨0, 0, 0, [], 0, .gap, #[]⟩).close.runs

/-- How many of the runs from `lo` to `hi` end before a number. -/
def Run.search (runs : Array Run) (n lo hi : Nat) : Nat :=
  if lo < hi then
    let middle := (lo + hi) / 2
    match runs[middle]? with
    | some run =>
      if run.last < n then Run.search runs n (middle + 1) hi else Run.search runs n lo middle
    | none => lo
  else lo
termination_by hi - lo

/-- The run of a table that holds a number. -/
def Run.find? (runs : Array Run) (n : Nat) : Option Run :=
  match runs[Run.search runs n 0 runs.size]? with
  | some run => if run.first ≤ n ∧ n ≤ run.last then some run else none
  | none => none

/-- The numbers that a table gives for a number. -/
def Run.values? (runs : Array Run) (n : Nat) : Option (List Nat) :=
  (Run.find? runs n).map Run.values

/-- Whether a number is in a run of a table. -/
def Run.holds (runs : Array Run) (n : Nat) : Bool :=
  (Run.find? runs n).isSome

end PeriodScaler.Text
