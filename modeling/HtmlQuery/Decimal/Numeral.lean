import HtmlQuery.Text.Digit

/-!
# Written decimals and their values

A `Numeral` is a decimal as it is written: a sign, digits before and after the point, and an
exponent of ten.  `Numeral.toFloat` is the double nearest to its value.

Only the digits from the first that is not zero count, and where they begin decides early whether
the value is beyond every double or below half of the smallest one.
-/

namespace HtmlQuery.Decimal

/-- A decimal as it is written. -/
structure Numeral where
  /-- Whether a minus sign stands in front. -/
  negative : Bool := false
  /-- The digits before the point. -/
  whole : List Char
  /-- The digits after the point. -/
  fraction : List Char := []
  /-- The exponent of ten. -/
  exponent : Int := 0
deriving DecidableEq, Repr

/-- The value of a digit. -/
def digitValue (c : Char) : Nat :=
  c.toNat - '0'.toNat

/-- The number that digits write. -/
def natOfDigits (digits : List Char) : Nat :=
  digits.foldl (fun n c => 10 * n + digitValue c) 0

/-- The double nearest to `m · 10 ^ e`. -/
def scaledToFloat (m : Nat) (e : Int) : Float :=
  if 0 ≤ e then Float.ofScientific m false e.toNat else Float.ofScientific m true (-e).toNat

/-- The double nearest to the value of a numeral. -/
def Numeral.toFloat (n : Numeral) : Float :=
  let digits := (n.whole ++ n.fraction).dropWhile (· == '0')
  let scale := n.exponent - n.fraction.length
  let magnitude := digits.length + scale
  let size :=
    if digits.isEmpty || magnitude < -400 then 0
    else if 400 < magnitude then 1 / 0
    else scaledToFloat (natOfDigits digits) scale
  if n.negative then -size else size

end HtmlQuery.Decimal
