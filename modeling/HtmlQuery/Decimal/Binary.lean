/-!
# Doubles as integers times powers of two

A finite double other than zero is `± mantissa · 2 ^ exponent` for integers read off its bits.
`remainder` is computed exactly on this form: what is left of the dividend after whole multiples of
the divisor, with the sign of the dividend.

`floor` and `ceiling` cut off the fraction.  A double has none from 2 ^ 52 on, and what is smaller
fits into a word.
-/

namespace HtmlQuery.Decimal

/-- A sign, and a natural number times a power of two. -/
structure Binary where
  /-- Whether the number is below zero. -/
  negative : Bool
  /-- The number that the power of two multiplies. -/
  mantissa : Nat
  /-- The exponent of two. -/
  exponent : Int
deriving DecidableEq, Repr

/-- The parts of a finite double. -/
def Binary.ofFloat (x : Float) : Binary :=
  let bits : Nat := x.toBits.toNat
  let field : Nat := bits / 0x10000000000000 % 0x800
  let fraction : Nat := bits % 0x10000000000000
  let negative := bits / 0x8000000000000000 == 1
  if field = 0 then ⟨negative, fraction, -1074⟩
  else ⟨negative, fraction + 0x10000000000000, (field : Int) - 1075⟩

/-- A double with a given sign. -/
def withSign (negative : Bool) (x : Float) : Float :=
  if negative then -x else x

/-- What is left of `x` after taking away whole multiples of `y`.  It has the sign of `x` and is
smaller than `y`.  There is none for an infinite `x` and for a `y` of zero. -/
def remainder (x y : Float) : Float :=
  if x.isNaN || y.isNaN || x.isInf || y == 0 then 0 / 0
  else if y.isInf || x == 0 then x
  else
    let a := Binary.ofFloat x
    let b := Binary.ofFloat y
    let e := min a.exponent b.exponent
    let m : Nat := a.mantissa * Nat.pow 2 (a.exponent - e).toNat
    let n : Nat := b.mantissa * Nat.pow 2 (b.exponent - e).toNat
    withSign a.negative ((Float.ofNat (m % n)).scaleB e)

/-- The greatest whole number that is not above `x`.  A zero, an infinity and what is not a number
stay as they are. -/
def floor (x : Float) : Float :=
  let size := x.abs
  if size < 4503599627370496 then
    let whole := size.toUInt64.toFloat
    if 0 < x then whole
    else if whole == size then x
    else -(whole + 1)
  else x

/-- The least whole number that is not below `x`. -/
def ceiling (x : Float) : Float :=
  -floor (-x)

end HtmlQuery.Decimal
