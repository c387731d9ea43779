import PeriodScaler.Controller.LogPattern
import PeriodScaler.Text.Alphanumeric
import PeriodScaler.Text.Blank
import PeriodScaler.Text.Decimal

/-!
# Log filters

Which messages of a program are written. A filter is a list of directives: a level, or a target that
may have a span in brackets and a level behind `=`. A span is a name, or fields in braces, or both;
`target[span{field=value}]=level` has all parts.

A directive that asks for a span or for the value of a field concerns what happens inside spans, and
the program opens none. The others decide about messages: of those that concern a message the most
specific one does, which is the one with the longest target and then the one with the most fields.
A filter without directives lets errors through.

Model of the library's `EnvFilter`, as far as `main` uses it.
-/

namespace PeriodScaler

/-- How much is written, from nothing to everything. -/
inductive LogLevel where
  | off | error | warn | info | debug | trace
  deriving DecidableEq, Repr

namespace LogLevel

/-- The position in the order of levels. -/
def rank : LogLevel → Nat
  | off => 0
  | error => 1
  | warn => 2
  | info => 3
  | debug => 4
  | trace => 5

/-- The levels with their names. -/
def names : List (String × LogLevel) :=
  [("off", off), ("error", error), ("warn", warn), ("info", info), ("debug", debug),
    ("trace", trace)]

/-- Reads a level: its name, in any case, or its position. Nothing at all means errors. -/
def ofText? (text : String) : Option LogLevel :=
  if text = "" then some error
  else
    match Text.nat? 5 text.toList with
    | some n => (names.find? fun (_, level) => level.rank == n).map Prod.snd
    | none => names.lookup (Text.lowerAscii text)

end LogLevel

/-- A field that a directive asks for, and whether it asks for a value of it. -/
structure LogField where
  name : String
  valued : Bool
  deriving DecidableEq, Repr

/-- One rule of a filter: up to which level messages are written. -/
structure LogDirective where
  target : Option String
  span : Option String
  fields : List LogField
  level : LogLevel
  deriving DecidableEq, Repr

namespace LogDirective

/-- A directive about all messages. -/
def ofLevel (level : LogLevel) : LogDirective where
  target := none
  span := none
  fields := []
  level := level

/-- Whether a directive can start with a character. -/
def startsWell (c : Char) : Bool :=
  c == '-' || c == ':' || c == '_' || Text.isAlphanumeric c

/-- A directive while it is read. Places are counted without the blanks around it, and words are
taken from the text with them: a blank in front shifts every word, one behind belongs to the
last. -/
structure Reading where
  /-- The whole directive. -/
  whole : List Char
  /-- How much of it has been read. -/
  place : Nat
  /-- What is left, up to the blanks at the end. -/
  rest : List Char

/-- The word from here to the first character that satisfies `stop`, that character, and what
follows it. -/
def Reading.word (stop : Char → Bool) (r : Reading) : String × Option Char × Reading :=
  let taken := (r.rest.takeWhile (!stop ·)).length
  match r.rest.drop taken with
  | [] => (String.ofList (r.whole.drop r.place), none, { r with rest := [] })
  | c :: rest =>
    (String.ofList ((r.whole.drop r.place).take taken), some c,
      { r with place := r.place + taken + 1, rest })

/-- Reads the level that ends a directive; without one everything is written. -/
def Reading.level? (r : Reading) : Option LogLevel :=
  match String.ofList (r.whole.drop r.place) with
  | "" => some .trace
  | text => LogLevel.ofText? text

/-- Reads a field with its value, if it has one; what follows a second `=` does not count. -/
def field? (text : String) : Option LogField :=
  if text = "" then none
  else
    match Text.pieces ['='] text.toList with
    | name :: value :: _ =>
      if LogPattern.isValue value then some ⟨String.ofList name, true⟩ else none
    | _ => some ⟨text, false⟩

/-- What follows a span: nothing, or a level. -/
def Reading.afterSpan? (d : LogDirective) (r : Reading) : Option LogDirective :=
  match r.rest with
  | [] => some d
  | '=' :: rest =>
    ({ r with place := r.place + 1, rest } : Reading).level?.map fun level => { d with level }
  | _ => none

/-- Reads a span behind its bracket, and what follows it. -/
def Reading.span? (d : LogDirective) (r : Reading) : Option LogDirective :=
  match r.word fun c => c == ']' || c == '\x7b' with
  | (name, some ']', r) => r.afterSpan? { d with span := some name }
  | (name, some _, r) =>
    match r.word (· == '\x7d') with
    | (text, some _, r) => do
      let field ← field? text
      let d := { d with span := if name = "" then none else some name, fields := [field] }
      match r.rest with
      | ']' :: rest => ({ r with place := r.place + 1, rest } : Reading).afterSpan? d
      | _ => none
    | _ => none
  | _ => none

/-- Reads a directive. A word alone is a level if it can be one, else a target. -/
def ofText? (text : String) : Option LogDirective :=
  let everything := ofLevel .trace
  let r : Reading := ⟨text.toList, 0, Text.trim text.toList⟩
  match r.rest with
  | [] => none
  | '[' :: rest => ({ r with place := 1, rest } : Reading).span? everything
  | c :: _ =>
    if !startsWell c then none
    else
      match r.word fun c => c == '=' || c == '[' with
      | (word, none, _) =>
        match LogLevel.ofText? word with
        | some level => some (ofLevel level)
        | none => some { everything with target := some word }
      | (word, some '=', r) =>
        r.level?.map fun level => { everything with target := some word, level }
      | (word, some _, r) => r.span? { everything with target := some word }

/-- Whether a directive decides about messages outside spans. -/
def isStatic (d : LogDirective) : Bool :=
  d.span.isNone && d.fields.all fun f => !f.valued

/-- Whether a directive concerns messages of a target; a message has one field, its text. -/
def concerns (target : String) (d : LogDirective) : Bool :=
  (d.target.all fun t => t.toList.isPrefixOf target.toList) &&
    d.fields.all fun f => f.name == "message"

/-- How specific a directive is: its target counts first, by its length and then the greater one,
and then its fields. -/
def compareSpecific (d e : LogDirective) : Ordering :=
  (compare (d.target.map String.utf8ByteSize) (e.target.map String.utf8ByteSize)).then <|
    (compare d.fields.length e.fields.length).then <|
      (compare d.target e.target).then
        (compare (d.fields.map LogField.name) (e.fields.map LogField.name))

end LogDirective

/-- The directives of a filter. -/
abbrev LogFilter := List LogDirective

namespace LogFilter

/-- Reads a filter; a part that is empty does not count. -/
def ofText? (text : String) : Option LogFilter := do
  let parts := (Text.pieces [','] text.toList).filter fun part => !part.isEmpty
  match ← parts.mapM fun part => LogDirective.ofText? (String.ofList part) with
  | [] => return [.ofLevel .error]
  | directives => return directives

/-- The filter that lets through what an operator needs to see. -/
def standard : LogFilter := [.ofLevel .info]

/-- The more specific of two directives, the second of equal ones. -/
def better (best : Option LogDirective) (d : LogDirective) : Option LogDirective :=
  match best with
  | none => some d
  | some b => if b.compareSpecific d == .gt then best else some d

/-- Whether a message of a target at a level is written. -/
def allows (target : String) (level : LogLevel) (f : LogFilter) : Bool :=
  let deciding := f.filter fun d => d.isStatic && d.concerns target
  match deciding.foldl better none with
  | none => false
  | some d => level.rank ≤ d.level.rank

end LogFilter

end PeriodScaler
