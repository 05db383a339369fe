import HtmlQuery.Text.Blank
import HtmlQuery.Text.Digit

/-!
# Percent-encoding

A character outside the set that a part of a URL allows is written byte by byte: a percent sign and
two hexadecimal digits for each byte of its UTF-8 form.
-/

namespace HtmlQuery.Url

open Text (hexValue?)

/-- The bytes of a character in UTF-8. -/
def utf8 (c : Char) : List UInt8 :=
  (String.ofList [c]).toUTF8.toList

/-- A digit of sixteen, in upper case. -/
def hexDigit (n : Nat) : Char :=
  (Nat.digitChar n).toUpper

/-- A byte as a percent sign and two digits. -/
def percentByte (b : UInt8) : List Char :=
  ['%', hexDigit (b.toNat / 16), hexDigit (b.toNat % 16)]

/-- A text with every character of a class written byte by byte. -/
def percentEncode (encoded : Char → Bool) (s : List Char) : List Char :=
  s.flatMap fun c => if encoded c then (utf8 c).flatMap percentByte else [c]

/-- Control characters and all characters beyond ASCII. -/
def isControl (c : Char) : Bool :=
  c.toNat < 0x20 || 0x7E < c.toNat

/-- The characters encoded in a fragment. -/
def inFragment (c : Char) : Bool :=
  isControl c || [' ', '"', '<', '>', '`'].contains c

/-- The characters encoded in a query. -/
def inQuery (c : Char) : Bool :=
  isControl c || [' ', '"', '#', '<', '>'].contains c

/-- The characters encoded in the query of a special URL. -/
def inSpecialQuery (c : Char) : Bool :=
  inQuery c || c == '\''

/-- The characters encoded in a path. -/
def inPath (c : Char) : Bool :=
  inFragment c || ['#', '?', '\x7b', '\x7d'].contains c

/-- The characters encoded in a user name and a password. -/
def inUser (c : Char) : Bool :=
  inPath c || ['/', ':', ';', '=', '@', '[', '\\', ']', '^', '|'].contains c

/-- The bytes of a text in which percent signs and two digits stand for bytes. -/
def percentDecode : List Char → List UInt8
  | '%' :: a :: b :: rest =>
    match hexValue? a, hexValue? b with
    | some h, some l => UInt8.ofNat (16 * h + l) :: percentDecode rest
    | _, _ => utf8 '%' ++ percentDecode (a :: b :: rest)
  | c :: rest => utf8 c ++ percentDecode rest
  | [] => []

end HtmlQuery.Url
