import HtmlQuery.Decimal.Binary

/-!
# The shortest decimal of a double

Every double is the nearest one to a whole interval of reals.  `shortest` gives the fewest digits
that fall in that interval, and of those the nearest to the double.  An exact tie goes up.

On the grid of decimals with a fixed last place, the interval holds a point only if it holds one of
the two neighbours of the double.  So for one digit, two digits and so on the two neighbours are
tried, and seventeen digits always do.
-/

namespace HtmlQuery.Decimal

/-- Decimal digits, the first not zero, with the value `0.d₁d₂d₃… · 10 ^ point`. -/
structure Digits where
  /-- The digits, most significant first. -/
  digits : List Nat
  /-- How many of the digits stand before the decimal point. -/
  point : Int
deriving DecidableEq, Repr

/-- A positive rational number and the bounds of the reals that round to it, over one
denominator. -/
structure Interval where
  /-- The numerator of the lower bound. -/
  low : Nat
  /-- The numerator of the number. -/
  value : Nat
  /-- The numerator of the upper bound. -/
  high : Nat
  /-- The denominator. -/
  scale : Nat
  /-- Whether the bounds round to the number too. -/
  closed : Bool

/-- The reals that round to a positive double.  Below a power of two the doubles lie twice as
dense as above it. -/
def Interval.ofBinary (b : Binary) : Interval :=
  let up := Nat.pow 2 b.exponent.toNat
  let down := Nat.pow 2 (-b.exponent).toNat
  let narrow := b.mantissa == 0x10000000000000 && b.exponent > -1074
  let unit := up
  ⟨4 * b.mantissa * unit - (if narrow then unit else 2 * unit), 4 * b.mantissa * unit,
    4 * b.mantissa * unit + 2 * unit, 4 * down, b.mantissa % 2 == 0⟩

/-- Whether `n / scale` lies in the interval. -/
def Interval.holds (i : Interval) (n : Nat) : Bool :=
  if i.closed then i.low ≤ n && n ≤ i.high else i.low < n && n < i.high

/-- The interval times a natural number. -/
def Interval.times (i : Interval) (k : Nat) : Interval :=
  { i with low := i.low * k, value := i.value * k, high := i.high * k }

/-- The interval over a natural number. -/
def Interval.over (i : Interval) (k : Nat) : Interval :=
  { i with scale := i.scale * k }

/-- The whole number of the interval that is nearest to its value, of those next to the value. -/
def Interval.nearest? (i : Interval) : Option Nat :=
  let below := i.value / i.scale
  let fitsBelow := below != 0 && i.holds (below * i.scale)
  let fitsAbove := i.holds ((below + 1) * i.scale)
  let rest := i.value % i.scale
  if rest = 0 then some below
  else if fitsBelow && (!fitsAbove || 2 * rest < i.scale) then some below
  else if fitsAbove then some (below + 1)
  else none

/-- The number of digits of a natural number. -/
def digitCount (n : Nat) : Nat :=
  (Nat.toDigits 10 n).length

/-- A number `k` such that the value is below `10 ^ k` and not below `10 ^ (k - 2)`, found from the
lengths of numerator and denominator. -/
def Interval.magnitude (i : Interval) : Int :=
  (digitCount i.value : Int) - digitCount i.scale + 1

/-- The least `k` such that the value is below `10 ^ k`. -/
def Interval.point (i : Interval) : Int :=
  let k := i.magnitude
  let tenth := k - 1
  let isBelow :=
    if 0 ≤ tenth then i.value < i.scale * Nat.pow 10 tenth.toNat
    else i.value * Nat.pow 10 (-tenth).toNat < i.scale
  if isBelow then tenth else k

/-- The interval with the unit at the last of `count` digits. -/
def Interval.atPlace (i : Interval) (point : Int) (count : Nat) : Interval :=
  let place := point - count
  if 0 ≤ place then i.over (Nat.pow 10 place.toNat) else i.times (Nat.pow 10 (-place).toNat)

/-- The digits of a natural number, most significant first. -/
def digitsOf (n : Nat) : List Nat :=
  (Nat.toDigits 10 n).map fun c => c.toNat - '0'.toNat

/-- Drops zeros at the end. -/
def dropZeros (digits : List Nat) : List Nat :=
  (digits.reverse.dropWhile (· == 0)).reverse

/-- Tries `count` digits and, while those do not do, one more, `tries` times in all. -/
def Interval.digitsFrom (i : Interval) (point : Int) : (tries count : Nat) → Digits
  | 0, count => ⟨digitsOf ((i.atPlace point count).value / (i.atPlace point count).scale), point⟩
  | tries + 1, count =>
    match (i.atPlace point count).nearest? with
    | some n =>
      let digits := digitsOf n
      ⟨dropZeros digits, point + (digits.length - count : Int)⟩
    | none => i.digitsFrom point tries (count + 1)

/-- The shortest digits of a double that is finite and not zero, its sign left out. -/
def shortest (x : Float) : Digits :=
  let i := Interval.ofBinary (Binary.ofFloat x)
  i.digitsFrom i.point 17 1

end HtmlQuery.Decimal
