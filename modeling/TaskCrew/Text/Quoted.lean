import TaskCrew.Text.Unprintable

/-!
# Quoted texts and shown records

The form in which a value is shown to a reader of messages.

* `quoted` — a text between double quotes, with a backslash before a quote and a backslash, short
  names for the tab, the line ends and the null character, and the code point in hexadecimal
  digits for whatever has no shape of its own;
* `shownRecord` — a named record with its fields.
-/

namespace TaskCrew.Text

/-- How one character stands in a quoted text. -/
def quotedChar (c : Char) : List Char :=
  if c = '\x00' then ['\\', '0']
  else if c = '\t' then ['\\', 't']
  else if c = '\n' then ['\\', 'n']
  else if c = '\r' then ['\\', 'r']
  else if c = '"' then ['\\', '"']
  else if c = '\\' then ['\\', '\\']
  else if isUnprintable c then
    ['\\', 'u', '\x7b'] ++ Nat.toDigits 16 c.toNat ++ ['\x7d']
  else [c]

/-- A text between double quotes, with every character that needs it escaped. -/
def quoted (s : String) : String :=
  String.ofList ('"' :: s.toList.flatMap quotedChar ++ ['"'])

/-- A record as it is shown: its name, and its fields in order. -/
def shownRecord (name : String) (fields : List (String × String)) : String :=
  name ++ " \x7b " ++ ", ".intercalate (fields.map fun (k, v) => k ++ ": " ++ v) ++ " \x7d"

end TaskCrew.Text
