import PeriodScaler.Text.Hidden

/-!
# Quoted texts

A text in quotes for a reader of logs. Quotes and backslashes get a backslash in front; line breaks,
tabs and the zero character have letters of their own; other characters that do not show are written
as numbers.

Model of the library's `Debug` text of strings.
-/

namespace PeriodScaler.Text

/-- A character inside quotes. -/
def quotedChar (c : Char) : List Char :=
  if c = '"' then ['\\', '"']
  else if c = '\\' then ['\\', '\\']
  else if c = '\n' then ['\\', 'n']
  else if c = '\r' then ['\\', 'r']
  else if c = '\t' then ['\\', 't']
  else if c = '\x00' then ['\\', '0']
  else if isHidden c then "\\u\x7b".toList ++ Nat.toDigits 16 c.toNat ++ ['\x7d']
  else [c]

/-- A text in quotes. -/
def quoted (s : String) : String :=
  String.ofList ('"' :: s.toList.flatMap quotedChar ++ ['"'])

end PeriodScaler.Text
