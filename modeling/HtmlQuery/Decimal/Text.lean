import HtmlQuery.Decimal.Shortest

/-!
# Doubles as texts

Two forms are used.  `plain` never has an exponent and writes a whole number without a fraction.
`exact` is the form of diagnostics: a whole number keeps `.0`, and a number from `10 ^ 16` on or
below `10 ^ -4` is written with an exponent.
-/

namespace HtmlQuery.Decimal

/-- A digit as a character. -/
def digitChar (d : Nat) : Char :=
  Char.ofNat ('0'.toNat + d)

/-- Digits as characters. -/
def digitChars (digits : List Nat) : List Char :=
  digits.map digitChar

/-- The digits before and after the decimal point.  Missing places are zeros, and there is at least
one digit before the point. -/
def Digits.split (d : Digits) : List Nat × List Nat :=
  if d.point ≤ 0 then ([0], List.replicate (-d.point).toNat 0 ++ d.digits)
  else
    let n := d.point.toNat
    (d.digits.take n ++ List.replicate (n - d.digits.length) 0, d.digits.drop n)

/-- Digits with a decimal point where there is a fraction. -/
def Digits.positional (d : Digits) : List Char :=
  let (whole, fraction) := d.split
  digitChars whole ++ if fraction.isEmpty then [] else '.' :: digitChars fraction

/-- Digits with one place before the point and an exponent of ten. -/
def Digits.scientific (d : Digits) : List Char :=
  let mantissa : List Char :=
    match d.digits with
    | [] => ['0']
    | [first] => [digitChar first]
    | first :: more => digitChar first :: '.' :: digitChars more
  mantissa ++ 'e' :: (toString (d.point - 1)).toList

/-- The sign of a text. -/
def signChars (negative : Bool) : List Char :=
  if negative then ['-'] else []

/-- A finite double in positional notation, with as few digits as tell it from every other. -/
def plain (x : Float) : String :=
  let negative := (Binary.ofFloat x).negative
  String.ofList <| signChars negative ++ if x == 0 then ['0'] else (shortest x).positional

/-- A double as diagnostics write it. -/
def exact (x : Float) : String :=
  if x.isNaN then "NaN"
  else
    let negative := (Binary.ofFloat x).negative
    let body :=
      if x.isInf then ['i', 'n', 'f']
      else if x == 0 then ['0', '.', '0']
      else
        let d := shortest x
        if 1e16 ≤ x.abs || x.abs < 1e-4 then d.scientific
        else if d.split.2.isEmpty then d.positional ++ ['.', '0']
        else d.positional
    String.ofList (signChars negative ++ body)

end HtmlQuery.Decimal
