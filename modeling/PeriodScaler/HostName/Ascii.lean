import PeriodScaler.HostName.Direction
import PeriodScaler.HostName.Joining
import PeriodScaler.HostName.Mapping
import PeriodScaler.HostName.Punycode

/-!
# Host names in ASCII

A name as it is looked up. Its characters are replaced by what they stand for, and a label with other
characters than those of ASCII is written in ASCII behind `xn--`. A label that is written so already
must stand for characters that it could have been written from.

Model of the library's `domain_to_ascii`, with its short way for names that are plain already.
-/

namespace PeriodScaler.HostName

open Text (Run)

/-- The marks that go with the character before them. -/
def markRuns : Array Run :=
  Run.table "
    300.6f,114.6,108.2c,2,2.1,2.1,2,49.a,31.14,11,66.6,3.5,3.1,2.3,24,1f.1a,5c.a,3b.8,a,19.3,2.8,
    2.2,2.4,2c.2,3c.8,2b.17,2.20,37.2,2.11,2.6,b.1,1e.2,39,2.6,3.1,3.2,a,b.1,1b,3.2,39,2.4,5.1,3.2,
    4,1f.1,4,c.2,39,2.7,2.2,2.2,15.1,17.5,2.2,39,2.6,3.1,3.2,8.2,b.1,1f,3c.4,4.2,2.3,a,29.4,38,2.6,
    2.2,2.3,8.1,c.1,1e.2,39,2.6,2.2,2.3,8.1,c.1,10,d.3,38.1,2.6,2.2,2.3,a,b.1,1e.2,47,5.5,2,2.7,
    13.1,3e,3.6,d.7,63,3.8,c.6,4a.1,1c,2,2,5.1,32.13,2.1,6.a,2.23,a,65.13,18.3,5.2,2.2,3.6,4.3,e.b,
    2,b.3,2c0.2,3b3.3,1d.2,1e.1,1f.1,41.1f,a,2e.2,2,76.1,23,77.b,5.b,dc.4,3a.9,2.1c,3,31.2d,3.b,
    15.4,30.10,27.8,d.2,1f.c,39.d,31.13,99.2,2.14,5,7,3.2,c7.3f,2d1.20,bff.2,8e,61.1f,22b.5,6a.1,
    75d5.3,2.9,21.1,51.1,111,4,5,18.4,5,54.1,33.11,1b.11,e,27.7,1a.c,2d.3,30.d,25,44.d,d,9.1,2e.2,
    33,2.2,3.1,6.1,2,2a.4,6.1,ed.7,2.1,4f31,2e2.f,11.f,3ce,e3,96.4,687.2,2.1,6.3,29.2,5,a6.1,23e.3,
    42.4,13e.1,4e.5,47.a,32.3,7b.2,36.e,2a,3.1,b.3,2e.a,8,3e.2,25.d,11.1,2d,d.2,31.d,9.3,2.1,5d.b,
    7,3,9e.b,16.3,38.1,2.6,3.1,3.2,a,b.1,3.6,4.4,44.8,2,3,2.3,2.4,2,f.1,53.11,18,52.13,ec.6,3.8,
    1c.1,53.10,6b.c,66.e,101.e,f6.5,2.1,3.3,2,2.1,8e.6,3.6,4,1d.9,29.6,2.3,9,a.a,2f.f,c7.7,c8.7,
    2.7,53.15,2.d,7b.5,4,2.1,2.6,2,43.4,2.1,2.4,15c.3,a.1,2,31.6,4.4,18,14e6,7.e,2cc9.11,9c1.4,
    3c.6,419,2.36,8.3,52,c.1,4cac.1,1262.2d,3.16,21f.4,4.5,9.7,3.6,1f.3,95.2,7bc.36,5.31,9,f,17.4,
    2.e,551.6,2.10,3.6,2.1,2.4,65,a1.6,178,3e.3,1fd.3,ff.1,f4,3,8.1,6,1db.6,6e.6,c17b6.ef"

/-- Whether a character is one of ASCII. -/
def isAscii (n : Nat) : Bool :=
  n < 128

/-- What a label starts with that stands for another one. -/
def encodedLead : List Nat :=
  "xn--".toList.map Char.toNat

/-- Whether the characters of a label may stand in one. -/
def isValid (label : List Nat) : Bool :=
  !(label.head?.any (Run.holds markRuns)) && label.all isPlain && joinsWell [] label

/-- A label with the characters that it stands for. -/
def decodedLabel? (label : List Nat) : Option (List Nat) :=
  if encodedLead.isPrefixOf label then do
    let decoded ← Punycode.decode? (label.drop encodedLead.length)
    guard (!decoded.all isAscii && !encodedLead.isPrefixOf decoded)
    guard (Text.composed decoded == decoded && isValid decoded)
    return decoded
  else if label.all isAscii || isValid label then some label
  else none

/-- A label in ASCII. -/
def encodedLabel? (label : List Nat) : Option (List Nat) :=
  if label.all isAscii then some label
  else (Punycode.encode? label).map (encodedLead ++ ·)

/-- The labels of a name. -/
def labelsOf (name : List Nat) : List (List Nat) :=
  name.splitOn 0x2E

/-- Whether a character of ASCII may stand in a name. -/
def keepsInName (c : Char) : Bool :=
  '\x21' ≤ c && c ≤ '\x7e' && !("#%/:<>?@[\\]^|".toList.contains c)

/-- Whether a character is a small letter of ASCII or the point between labels. -/
def isBare (c : Char) : Bool :=
  ('a' ≤ c && c ≤ 'z') || c == '.'

/-- A name in ASCII, if it is one. Small letters of ASCII stand for themselves, so a name with no
other characters is one already, and no table is looked at. -/
def toAscii? (name : List Char) : Option String :=
  if name.all isBare then some (String.ofList name)
  else do
    let mapped ← mapName? (name.map Char.toNat)
    let labels ← (labelsOf mapped).mapM decodedLabel?
    guard (!runsBothWays labels || labels.all isClear)
    let encoded ← labels.mapM encodedLabel?
    let text := (List.intercalate [0x2E] encoded).map Char.ofNat
    guard (text.all keepsInName)
    return String.ofList text

end PeriodScaler.HostName
