import PeriodScaler.Compute.Instance
import PeriodScaler.Scaler.Selection

/-!
# Filters on labels

The filter expression that asks for instances which carry every one of some labels, and the reading
of such an expression. A quote in a value gets a backslash in front; a reader takes brackets, the
lead `labels.` and quotes off the ends of what it finds.

Model of `label_filter` (`ofLabels`) and of `matches_filter` (`accepts`), which reads it for the
instances in memory. Nothing is left out.
-/

namespace PeriodScaler.Filter

/-- The value of a label inside quotes. -/
def escaped (value : List Char) : List Char :=
  value.flatMap fun c => if c = '"' then ['\\', '"'] else [c]

/-- The clause for one label. -/
def clause (label : String × String) : List Char :=
  "(labels.".toList ++ label.1.toList ++ " = \"".toList ++ escaped label.2.toList ++
    "\")".toList

/-- Texts with a separator between them. -/
def joined (sep : List Char) : List (List Char) → List Char
  | [] => []
  | [one] => one
  | one :: rest => one ++ sep ++ joined sep rest

/-- The filter that requires every label; none when there is nothing to require. -/
def ofLabels (labels : Labels) : Option String :=
  if labels.isEmpty then none
  else some (String.ofList (joined " AND ".toList (labels.map clause)))

/-- A text without the characters `c` that it ends with. -/
def dropEnd (c : Char) (cs : List Char) : List Char :=
  (cs.reverse.dropWhile (· = c)).reverse

/-- A text without any number of leads `labels.` in front. -/
def dropLeads (lead : List Char) : Nat → List Char → List Char
  | 0, cs => cs
  | n + 1, cs =>
    match Text.dropLead? lead cs with
    | some rest => dropLeads lead n rest
    | none => cs

/-- The label and value of a clause. -/
def readClause? (cs : List Char) : Option (String × String) := do
  let bare := dropEnd ')' ((Text.trim cs).dropWhile (· = '('))
  let (key, value) ← Text.splitOnce? " = ".toList bare
  let key := Text.trim key
  return (String.ofList (dropLeads "labels.".toList key.length key),
    String.ofList (dropEnd '"' ((Text.trim value).dropWhile (· = '"'))))

/-- Whether labels satisfy a filter: each of its clauses names one of them with its value. -/
def accepts (filter : Option String) (labels : Labels) : Bool :=
  match filter with
  | none => true
  | some text =>
    (Text.pieces " AND ".toList text.toList).all fun part =>
      match readClause? part with
      | none => false
      | some (key, value) => labels.lookup key == some value

end PeriodScaler.Filter
