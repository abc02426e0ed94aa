import SensorClient.Text.Extender
import SensorClient.Text.Printable

/-!
# Quoted texts

A text that is shown for inspection stands between double quotes, with every character that
could be mistaken or not be seen written as an escape.

## Main definitions

* `Text.escaped`: the escape of one character
* `Text.quoted`: the quoted text
-/

namespace SensorClient.Text

/-- The number of a character in lower case hexadecimal digits, between braces. -/
def codeEscape (c : Char) : List Char :=
  ['\\', 'u', '\x7b'] ++ Nat.toDigits 16 c.toNat ++ ['\x7d']

/-- A character inside quotes: a short escape where there is one, its number if it extends the
character before it or cannot be shown, and otherwise the character itself. -/
def escaped (c : Char) : List Char :=
  if c = '\x00' then ['\\', '0']
  else if c = '\t' then ['\\', 't']
  else if c = '\r' then ['\\', 'r']
  else if c = '\n' then ['\\', 'n']
  else if c = '\\' ∨ c = '"' then ['\\', c]
  else if isExtender c then codeEscape c
  else if isPrintable c then [c]
  else codeEscape c

/-- The text between double quotes, its characters escaped. -/
def quoted (text : String) : String :=
  String.ofList (['"'] ++ text.toList.flatMap escaped ++ ['"'])

end SensorClient.Text
