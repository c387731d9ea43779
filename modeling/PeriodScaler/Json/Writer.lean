import PeriodScaler.Json.Basic

/-!
# Compact JSON text

Writing a value without any blank. In a text the quote, the backslash and the control characters
are escaped, with the short escape where JSON has one and four lower-case hexadecimal digits
otherwise; every other character stands for itself.

Model of the JSON library's `to_string`.
-/

namespace PeriodScaler.Json

/-- The characters that stand for one character inside a quoted text. -/
def escape (c : Char) : List Char :=
  if c = '"' then ['\\', '"']
  else if c = '\\' then ['\\', '\\']
  else if c = '\x08' then ['\\', 'b']
  else if c = '\x0c' then ['\\', 'f']
  else if c = '\n' then ['\\', 'n']
  else if c = '\r' then ['\\', 'r']
  else if c = '\t' then ['\\', 't']
  else if c.toNat < 32 then
    ['\\', 'u', '0', '0', Text.hexDigit (c.toNat / 16), Text.hexDigit (c.toNat % 16)]
  else [c]

/-- The characters of a quoted text. -/
def quote (s : String) : List Char :=
  '"' :: (s.toList.flatMap escape ++ ['"'])

mutual

/-- The characters of a value, in front of those that follow it. -/
def writeOnto : Json → List Char → List Char
  | .null, after => 'n' :: 'u' :: 'l' :: 'l' :: after
  | .bool true, after => 't' :: 'r' :: 'u' :: 'e' :: after
  | .bool false, after => 'f' :: 'a' :: 'l' :: 's' :: 'e' :: after
  | .number literal, after => literal.toList ++ after
  | .text s, after => quote s ++ after
  | .array [], after => '[' :: ']' :: after
  | .array (item :: items), after => '[' :: writeOnto item (writeItems items after)
  | .object [], after => '\x7b' :: '\x7d' :: after
  | .object ((name, value) :: fields), after =>
    '\x7b' :: (quote name ++ ':' :: writeOnto value (writeFields fields after))
  | .unreadable, after => '"' :: '"' :: after

/-- The items of an array after its first one, and the closing bracket. -/
def writeItems : List Json → List Char → List Char
  | [], after => ']' :: after
  | item :: items, after => ',' :: writeOnto item (writeItems items after)

/-- The fields of an object after its first one, and the closing brace. -/
def writeFields : List (String × Json) → List Char → List Char
  | [], after => '\x7d' :: after
  | (name, value) :: fields, after =>
    ',' :: (quote name ++ ':' :: writeOnto value (writeFields fields after))

end

/-- The compact text of a value. -/
def compact (j : Json) : String :=
  String.ofList (writeOnto j [])

end PeriodScaler.Json
