import PeriodScaler.Text.Composed

/-!
# Joining of letters in host names

Two characters that show nothing tell whether the letters beside them are joined. They may stand
where they make a difference: behind a mark that joins consonants, and the one that keeps letters
apart also between two letters that would be joined otherwise.

Model of the check of joiners in `domain_to_ascii`.
-/

namespace PeriodScaler.HostName

open Text (Run)

/-- The sides on which a letter is joined to others. -/
inductive Joining where
  | bothSides
  /-- To the letter before it. -/
  | before
  /-- To the letter after it. -/
  | after
  /-- A mark, through which the letters beside it are joined. -/
  | through
  deriving DecidableEq, Repr

/-- The joining of characters: one is both sides, two before, three after, four through. -/
def joiningRuns : Array Run :=
  Run.table "
    ad:4,253.6f:4,114.6:4,108.2c:4,2:4,2.1:4,2.1:4,2:4,49.a:4,2:4,4:1,2.3:2,1:1,1:2,1:1,1:2,1.4:1,
    1.3:2,1.c:1,2.6:1,1:2,1.1:1,1.14:4,f.1:1,1:4,1.2:2,2.2:2,1.f:1,1.11:2,1.25:1,1:2,1.1:1,1.8:2,1
    :1,1:2,1:1,1:2,1.1:1,1.1:2,2:2,1.6:4,3.5:4,3.1:4,2.3:4,1.1:2,b.2:1,3:1,10:4,1:2,1:4,1.2:1,1.4
    :2,1.3:1,1:2,1.8:1,1:2,1:1,1:2,1:1,1:2,1.1:1,1:2,1.1a:4,3:2,1.a:1,1.2:2,1.e:1,1.1:2,1.3:1,1:2,1
    :1,1.1:2,1.2:1,1.1:2,1.5:1,27.a:4,1a.20:1,1.8:4,a:4,19.3:4,2.8:4,2.2:4,2.4:4,13:2,1.4:1,1.1:2,1
    :1,1:2,1.9:1,1:2,1:1,1.2:2,1.2:4,5:1,2.3:1,2:2,1:1,1.1:2,6.12:2,4:1,3.4:1,1:2,1:1,8.8:4,1.9:1,
    1.2:2,2:2,1.1:1,1.1:2,1.5:1,1:2,1.e:1,2.17:4,2.1f:4,38:4,2:4,5.7:4,5:4,4.6:4,b.1:4,1e:4,3b:4,
    5.3:4,9:4,15.1:4,1b:4,3.1:4,3a:4,5.1:4,5.1:4,3.2:4,4:4,1f.1:4,4:4,c.1:4,3a:4,5.4:4,2.1:4,5:4,
    15.1:4,17.5:4,2:4,3b:4,3:4,2.3:4,9:4,8.1:4,c.1:4,1f:4,3e:4,d:4,33:4,4:4,38:4,2.2:4,6.2:4,2.3:4,
    8.1:4,c.1:4,1e:4,3b:4,3:4,7:4,6.1:4,15.1:4,1d.1:4,3a.1:4,5.3:4,9:4,15.1:4,1e:4,49:4,8.2:4,2:4,
    5b:4,3.6:4,d.7:4,63:4,3.8:4,c.6:4,4a.1:4,1c:4,2:4,2:4,38.d:4,2.4:4,2.1:4,6.a:4,2.23:4,a:4,67.3
    :4,2.5:4,2.1:4,3.1:4,1a.1:4,5.2:4,11.3:4,e:4,3.1:4,7:4,10:4,2c0.2:4,3b3.2:4,1e.1:4,1f.1:4,1f.1
    :4,41.1:4,2.6:4,9:4,3.a:4,a:4,2a:1,4.2:4,2:4,11.58:1,d.1:4,1.21:1,1:4,1:1,76.2:4,5.1:4,a:4,7.2
    :4,dc.1:4,3:4,3b:4,2.6:4,2:4,2:4,3.7:4,7.9:4,3:4,31.2d:4,3.b:4,15.3:4,31:4,2.4:4,2:4,6:4,29.8
    :4,d.1:4,21.3:4,3.1:4,2.2:4,39:4,2.1:4,4:4,2.2:4,3b.7:4,3.1:4,99.2:4,2.c:4,2.6:4,5:4,7:4,4.1:4,
    c7.3f:4,20c:4,3.1:4,1b.4:4,32.4:4,6.5:4,61.20:4,bff.2:4,8e:4,61.1f:4,22b.3:4,6c.1:4,75d5.3:4,
    2.9:4,21.1:4,51.1:4,111:4,4:4,5:4,1a.1:4,6:4,14.31:1,1:3,52.1:4,1b.11:4,e:4,27.7:4,1a.a:4,2f.2
    :4,31:4,3.3:4,3.1:4,28:4,44.5:4,3.1:4,3.1:4,d:4,9:4,30:4,34:4,2.2:4,3.1:4,6.1:4,2:4,2b.1:4,9:4,
    ef:4,3:4,5:4,4f31:4,2e2.f:4,11.f:4,d0:4,fa.2:4,202:4,e3:4,96.4:4,687.2:4,2.1:4,6.3:4,29.2:4,5
    :4,81.4:1,1:2,2:2,2.1:2,3:3,1.4:2,1.3:1,1:3,1.4:1,1:2,1.2:1,1:2,3:2,1.1:4,5.3:1,1:2,91:1,1:2,1
    :1,1.2:2,1.2:1,1:2,1.1:1,1:2,1:1,1.1:2,1:1,1:2,18.3:2,1.1:1,152:3,1.20:1,1:2,1:1,1.3:4,42.4:4,
    13e.1:4,16:2,1.1:1,2.1:1,33.5:4,31.2:1,1:2,1.10:1,2.a:4,1.2:1,1:2,1c.3:1,1.1:2,1.b:1,1.3:4,2b
    :1,2.1:1,1.2:2,2:1,1.1:2,1.1:1,1:2,1.1:1,2:1,1.1:2,1:1,5:2,1:1,1:3,36:4,37.e:4,2a:4,3.1:4,b.2
    :4,32.3:4,3.1:4,8:4,3e.2:4,25.4:4,2.7:4,3f:4,d.1:4,35.8:4,b.3:4,3:4,60.2:4,3:4,2.1:4,7:4,3:4,9e
    :4,4.7:4,16.1:4,3a.1:4,4:4,26.6:4,4.4:4,47.5:4,e:4,2:4,2:4,f.1:4,56.7:4,3.2:4,2:4,18:4,55.5:4,2
    :4,5.1:4,2.1:4,ef.3:4,7.1:4,2.1:4,1c.1:4,56.7:4,3:4,2.1:4,6b:4,2:4,3.5:4,2:4,66:4,2:4,3.3:4,2.4
    :4,104.8:4,2.1:4,101.1:4,2:4,5:4,91.3:4,3.1:4,5:4,21.9:4,29.5:4,3.3:4,9:4,a.5:4,3.2:4,2f.c:4,
    2.1:4,c7:4,2.2:4,2:4,ca.6:4,2.5:4,2:4,53.15:4,3.6:4,2.1:4,2.1:4,7b.5:4,4:4,2.1:4,2.6:4,2:4,49.1
    :4,4:4,2:4,15c.1:4,c.1:4,35.4:4,6:4,2:4,18:4,14d6.10:4,7.e:4,2cc9.b:4,4.2:4,9c1.4:4,3c.6:4,419
    :4,40.3:4,52:4,4cb9.1:4,2.3:4,125d.2d:4,3.16:4,221.2:4,a.f:4,3.6:4,1f.3:4,95.2:4,7bc.36:4,5.31
    :4,9:4,f:4,17.4:4,2.e:4,551.6:4,2.10:4,3.6:4,2.1:4,2.4:4,65:4,a1.6:4,178:4,3e.3:4,1fd.3:4,ff.1
    :4,f4:4,3:4,8.1:4,6:4,1db.6:4,2a.43:1,1.7:4,c16b6:4,1f.5f:4,81.ef:4"

/-- How a character is joined; most are not. -/
def joining? (n : Nat) : Option Joining :=
  match Run.values? joiningRuns n with
  | some [1] => some .bothSides
  | some [2] => some .before
  | some [3] => some .after
  | some [4] => some .through
  | _ => none

/-- The class of the marks that join consonants. -/
def joiningMarkClass : Nat := 9

/-- The character that keeps letters apart, and the one that joins them. -/
def nonJoiner : Nat := 0x200C
def joiner : Nat := 0x200D

/-- How the next letter in a direction is joined. -/
def nextJoining? (cs : List Nat) : Option Joining :=
  (cs.dropWhile fun n => joining? n == some .through).head?.bind joining?

/-- Whether the characters that tell about joining may stand where they do; `before` holds what
stands before the rest of a label, the nearest first. -/
def joinsWell (before : List Nat) : List Nat → Bool
  | [] => true
  | n :: rest =>
    let marked := (before.head?.map Text.markClass) == some joiningMarkClass
    let fits :=
      if n = joiner then marked
      else if n = nonJoiner then
        let left := nextJoining? before
        let right := nextJoining? rest
        marked || ((left == some .after || left == some .bothSides) &&
          (right == some .before || right == some .bothSides))
      else true
    fits && joinsWell (n :: before) rest

end PeriodScaler.HostName
