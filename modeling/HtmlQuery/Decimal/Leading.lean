import HtmlQuery.Decimal.Numeral
import HtmlQuery.Text.Blank

/-!
# Numbers at the front of a text

`leadingInteger?` and `leadingDecimal?` read the longest number that a text begins with, blanks
before it skipped, and ignore what follows.  Digits of every script belong to the number, and a
number with a digit other than `0` to `9` has no value.
-/

namespace HtmlQuery.Decimal

/-- A sign at the front of a text, and the rest. -/
def splitSign : List Char → Option Char × List Char
  | '+' :: rest => (some '+', rest)
  | '-' :: rest => (some '-', rest)
  | rest => (none, rest)

/-- Digits at the front of a text, and the rest. -/
def splitDigits (text : List Char) : List Char × List Char :=
  (text.takeWhile Text.isDigit, text.dropWhile Text.isDigit)

/-- The integers of 64 bits. -/
def fitsInt64 (n : Int) : Bool :=
  -0x8000000000000000 ≤ n && n < 0x8000000000000000

/-- The integer that a text begins with, if it is one of 64 bits. -/
def leadingInteger? (text : String) : Option Int :=
  let (sign, rest) := splitSign (Text.trimBy Text.isBlank text.toList)
  let (digits, _) := splitDigits rest
  if digits.isEmpty || !digits.all Text.isAsciiDigit then none
  else
    let size : Int := natOfDigits digits
    let n := if sign == some '-' then -size else size
    if fitsInt64 n then some n else none

/-- Digits with at most one point before, among or behind them, at the front of a text.  The point
may stand behind the digits or before them, not alone. -/
def splitMantissa (text : List Char) : Option (List Char × List Char × List Char) :=
  match splitDigits text with
  | ([], '.' :: rest) =>
    match splitDigits rest with
    | ([], _) => none
    | (fraction, rest) => some ([], fraction, rest)
  | ([], _) => none
  | (whole, '.' :: rest) =>
    let (fraction, rest) := splitDigits rest
    some (whole, fraction, rest)
  | (whole, rest) => some (whole, [], rest)

/-- The sign and the digits of an exponent at the front of a text, if it begins with one. -/
def splitExponent : List Char → Option (Option Char × List Char)
  | c :: rest =>
    if c == 'e' || c == 'E' then
      let (sign, rest) := splitSign rest
      match splitDigits rest with
      | ([], _) => none
      | (digits, _) => some (sign, digits)
    else none
  | [] => none

/-- The exponent that a sign and digits write. -/
def exponentOf : Option (Option Char × List Char) → Int
  | none => 0
  | some (sign, digits) =>
    let size : Int := natOfDigits digits
    if sign == some '-' then -size else size

/-- The decimal that a text begins with. -/
def leadingNumeral? (text : List Char) : Option Numeral := do
  let (sign, rest) := splitSign text
  let (whole, fraction, rest) ← splitMantissa rest
  let exponent := splitExponent rest
  let digits := whole ++ fraction ++ (exponent.map (·.2)).getD []
  if digits.all Text.isAsciiDigit then
    return { negative := sign == some '-', whole, fraction, exponent := exponentOf exponent }
  else none

/-- The double nearest to the decimal that a text begins with. -/
def leadingDecimal? (text : String) : Option Float :=
  (leadingNumeral? (Text.trimBy Text.isBlank text.toList)).map Numeral.toFloat

end HtmlQuery.Decimal
