import PeriodScaler.Http.Ip
import PeriodScaler.Text.Blank

/-!
# Names of servers

The name under which a server is expected to identify itself: the address of a machine, or labels with
points between them. The last label is no number, and a point may follow it.

Model of the library type `ServerName`.
-/

namespace PeriodScaler.Http.ServerName

/-- The most bytes of a name and of a label. -/
def maxLength : Nat := 253
def maxLabelLength : Nat := 63

/-- Whether a character may stand in a label. -/
def isLabelChar (c : Char) : Bool :=
  c.isAlphanum || c == '_' || c == '-'

/-- Whether some characters are a label: a dash stands inside of it only. -/
def isLabel (cs : List Char) : Bool :=
  !cs.isEmpty && cs.length ≤ maxLabelLength && cs.all isLabelChar && cs.head? != some '-' &&
    cs.getLast? != some '-'

/-- Whether some characters are labels. -/
def areLabels (cs : List Char) : Bool :=
  let labels := Text.pieces ['.'] cs
  let labels := if labels.getLast? = some [] then labels.dropLast else labels
  cs.length ≤ maxLength && labels.all isLabel &&
    labels.getLast?.any fun last => !last.all Char.isDigit

/-- Whether a text is the name of a server. -/
def isValid (name : String) : Bool :=
  let cs := name.toList
  areLabels cs || (Ip.v4? cs).isSome || (Ip.v6? cs).isSome

end PeriodScaler.Http.ServerName
