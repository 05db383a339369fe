import HtmlQuery.Text.Printable

/-!
# Texts in diagnostics

A text inside a diagnostic stands between double quotes.  A double quote and a backslash are
written after a backslash, NUL, tab, line feed and carriage return by a letter, and every other
character that does not print on its own by its code point in hexadecimal.
-/

namespace HtmlQuery.Text

/-- The hexadecimal digits of a number, lower case, without leading zeros. -/
def hexadecimal (n : Nat) : List Char :=
  Nat.toDigits 16 n

/-- One character between double quotes. -/
def quotedChar (c : Char) : List Char :=
  if c == '"' then ['\\', '"']
  else if c == '\\' then ['\\', '\\']
  else if c == '\n' then ['\\', 'n']
  else if c == '\t' then ['\\', 't']
  else if c == '\r' then ['\\', 'r']
  else if c == '\x00' then ['\\', '0']
  else if isPrintable c then [c]
  else ['\\', 'u', '\x7b'] ++ hexadecimal c.toNat ++ ['\x7d']

/-- A text between double quotes. -/
def quoted (s : String) : String :=
  String.ofList ('"' :: s.toList.flatMap quotedChar ++ ['"'])

end HtmlQuery.Text
