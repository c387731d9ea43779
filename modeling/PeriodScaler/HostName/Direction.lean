import PeriodScaler.Text.Runs

/-!
# Direction of host names

A name with a character that is written from right to left must not become ambiguous when it is
shown. In such a name every label starts with a letter, which gives its direction, has only
characters that go with that direction, and ends, marks aside, with a letter or a number.

Model of the check of direction in `domain_to_ascii`.
-/

namespace PeriodScaler.HostName

open Text (Run)

/-- How a character behaves beside text that runs from left to right or from right to left. -/
inductive Direction where
  /-- Written from left to right. -/
  | left
  /-- Written from right to left. -/
  | right
  /-- A digit used in text of that direction. -/
  | arabicNumber
  /-- Any other digit. -/
  | number
  /-- A sign that takes the direction around it. -/
  | neutral
  /-- A mark that goes with the character before it. -/
  | mark
  /-- Does not occur in names. -/
  | other
  deriving DecidableEq, Repr

namespace Direction

/-- The directions other than `left`, by their numbers in the table. -/
def ofNumber : Nat → Direction
  | 1 => right
  | 2 => arabicNumber
  | 3 => number
  | 4 => neutral
  | 5 => mark
  | _ => other

/-- The directions of characters that are not written from left to right. -/
def runs : Array Run :=
  Run.table "
    0.8:4,1.4:6,1.d:4,1.4:6,1.e:4,1.9:3,1.26:4,1b.5c:4,20:4,1c2.1:4,8.d:4,3.1b:4,2.10:4,1.6f:5,6:4,
    81:4,8d.6:5,101.5:4,2.2c:5,1:1,1:5,1:1,1.1:5,1:1,1.1:5,1:1,1:5,9.24:1,12.1:4,1:1,1.1:4,1:1,1:4,
    1:1,1.1:4,1.a:5,1.2f:1,1.14:5,1.9:2,1:4,1.1:2,1.2:1,1:5,1.64:1,1.6:5,2:4,1.5:5,1.1:1,1.1:5,1:4,
    1.3:5,1.1:1,1.9:3,1.16:1,1:5,1.1d:1,1.1a:5,3.58:1,1.a:5,1.39:1,1.8:5,1.1:1,1.3:4,1:1,3:5,1.17
    :1,1.3:5,1:1,1.8:5,1:1,1.2:5,1:1,1.4:5,3.28:1,1.2:5,3.31:1,8.8:5,1.29:1,1.38:5,38:5,2:5,5.7:5,5
    :5,4.6:5,b.1:5,1e:5,3b:5,5.3:5,9:5,15.1:5,f.1:4,8:4,3.4:5,3a:5,5.10:5,1f.1:5,4:5,c.1:5,3a:5,5.7
    :5,5:5,15.1:5,e:4,9.7:5,3b:5,3:5,2.3:5,9.9:5,c.1:5,1f:5,3e:5,d:5,26.7:4,6:5,4:5,38:5,2.2:5,6.10
    :5,c.1:5,15.6:4,3:5,3b:5,10.1:5,15.1:5,1d.1:5,3a.1:5,5.3:5,9:5,15.1:5,1e:5,49:5,8.4:5,5b:5,3.6
    :5,5:4,8.7:5,63:5,3.8:5,c.6:5,4a.1:5,1c:5,2:5,2:5,1.3:4,34.d:5,2.4:5,2.1:5,6.2f:5,a:5,67.3:5,
    2.5:5,2.1:5,3.1:5,1a.1:5,5.2:5,11.3:5,e:5,3.1:5,7:5,10:5,2c0.2:5,31.9:4,67:4,29b.1:4,76.2:5,
    1e.1:5,1f.1:5,1f.1:5,44.6:5,9:5,3.a:5,8:4,2:5,13.1a:4,7b.1:5,23:5,77.2:5,5.1:5,a:5,7.2:5,5.5:4,
    99.21:4,18.1:5,3:5,3b:5,2.8:5,2:5,3.7:5,7.c:5,31.53:5,31:5,2.4:5,2:5,6:5,29.8:5,d.1:5,21.3:5,
    3.1:5,2.2:5,39:5,2.1:5,4:5,2.2:5,3b.7:5,3.1:5,99.2:5,2.c:5,2.6:5,5:5,7:5,4.1:5,c7.3f:5,20d.b5
    :4,f.20:5,14.49:4,3d.1ab:4,46.19:4,2.315:4,2.152:4,101.2ff:4,e6.5:4,5.2:5,8.6:4,80:5,61.1f:5,
    1.204:4,4.18:4,a.3:5,3:4,7:4,6.2:4,5a.1:5,6:4,5b:4,c5.25:4,1bdb.3f:4,5691.36:4,147.2:4,60.3:5,1
    :4,1.9:5,1.1:4,1f.1:5,51.1:5,f.21:4,67:4,7a:5,4:5,5:5,1a.1:5,2.3:4,1:5,c.1:4,3b.3:4,4d.1:5,
    1b.11:5,e:5,27.7:5,1a.a:5,2f.2:5,31:5,3.3:5,3.1:5,28:5,44.5:5,3.1:5,3.1:5,d:5,9:5,30:5,34:5,2.2
    :5,3.1:5,6.1:5,2:5,2b.1:5,9:5,74.1:4,7a:5,3:5,5:5,4f31:5,94.10:1,1.23c:4,21.f:5,16.1:4,2d:1,28e
    :4,3f.4c:4,4.10:4,5d:5,e3:5,1.1a:3,7b.4:5,486.11b:1,4:4,1.e0:1,1.e:5,1.25:1,3.7:5,1.a4:1,1.1:5,
    5.4a:1,4.6:4,1.1e3:1,1.3:5,9.9:2,7.f:1,1a.4:5,1.17:1,9.1:4,d1.1e:2,2.29:1,2.1:5,1.23:1,1.7:4,
    22.5:5,1.45:1,1.a:5,1.30:1,1.3:5,1.70:1,b:5,37.e:5,c.13:4,b:5,3.1:5,b.2:5,32.3:5,3.1:5,8:5,3e.2
    :5,25.4:5,2.7:5,3f:5,d.1:5,35.8:5,b.3:5,3:5,60.2:5,3:5,2.1:5,7:5,3:5,9e:5,4.7:5,16.1:5,3a.1:5,4
    :5,26.e:5,47.5:5,e:5,2:5,2:5,f.1:5,56.7:5,3.2:5,2:5,18:5,55.5:5,2:5,5.1:5,2.1:5,ef.3:5,7.1:5,
    2.1:5,1c.1:5,56.7:5,3:5,2.1:5,20.c:4,3f:5,2:5,3.5:5,2:5,66.2:5,3.3:5,2.4:5,104.8:5,2.1:5,101.1
    :5,2:5,5:5,91.7:5,5:5,21.5:5,3.1:5,29.5:5,3.3:5,9:5,a.5:5,3.2:5,2f.c:5,2.1:5,c7:5,2.2:5,2:5,
    ca.d:5,55.15:5,3.6:5,2.1:5,2.1:5,7b.14:5,2:5,49.1:5,4:5,2:5,15c.1:5,c.1:5,35.4:5,6:5,2:5,18:5,
    7b.1c:4,144f:5,7.e:5,2cc9.b:5,4.2:5,9c1.4:5,3c.6:5,419:5,40.3:5,50:4,2:5,4cb9.1:5,f62.2f0:4,
    10.46:5,221.2:5,12.7:5,3.6:5,1f.3:5,3c.58:4,1.2:5,1:4,bb.56:4,6aa.36:5,5.31:5,9:5,f:5,17.14:5,
    551.8f:5,a1.6:5,178:5,3e.3:5,10:4,1ed.3:5,ff.1:5,f4:5,3:5,8.1:5,6:5,10b.cf:1,1.6:5,4c.21:1,1.6
    :5,1.3f2:1,1b3.23f:4,3e.2:4,3e:4,b3.99a:4"

/-- The direction of a character. -/
def of (n : Nat) : Direction :=
  match Run.values? runs n with
  | some (value :: _) => ofNumber value
  | _ => left

end Direction

/-- Whether a name has a character that is written from right to left. -/
def runsBothWays (labels : List (List Nat)) : Bool :=
  labels.any fun label => label.any fun n =>
    match Direction.of n with
    | .right | .arabicNumber => true
    | _ => false

/-- Whether the direction of a label is clear. -/
def isClear (label : List Nat) : Bool :=
  let directions := label.map Direction.of
  let ending := (directions.reverse.dropWhile (· == .mark)).head?
  match directions.head? with
  | none => true
  | some .left =>
    directions.all (fun d => d == .left || d == .number || d == .neutral || d == .mark) &&
      (ending == some .left || ending == some .number)
  | some .right =>
    directions.all (fun d => d != .left && d != .other) &&
      (ending == some .right || ending == some .number || ending == some .arabicNumber) &&
      !(directions.contains .number && directions.contains .arabicNumber)
  | some _ => false

end PeriodScaler.HostName
