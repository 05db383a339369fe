import HtmlQuery.Decimal.Numeral
import HtmlQuery.Query.Error
import HtmlQuery.Tree.Node

/-!
# Values of expressions

An expression has a node-set, a boolean, a number or a string for its value, and every value can be
read as a boolean, a number and a string.  A node-set is read as a number or a string by its first
node.

A string that writes a number is white space around digits with at most one point among them and
maybe one minus sign before them.  Every other string is not a number.
-/

namespace HtmlQuery

/-- The value of an expression. -/
inductive Value where
  /-- Nodes in document order, each of them once. -/
  | nodeSet (nodes : List Node)
  /-- A boolean. -/
  | boolean (value : Bool)
  /-- A number. -/
  | number (value : Float)
  /-- A string. -/
  | string (value : String)

/-- The double that is not a number. -/
def notANumber : Float := 0 / 0

/-- The number that digits with at most one point among them write. -/
def unsignedNumber? (text : List Char) : Option Decimal.Numeral :=
  let whole := text.takeWhile (· != '.')
  let fraction := (text.dropWhile (· != '.')).drop 1
  if whole.all Text.isAsciiDigit && fraction.all Text.isAsciiDigit &&
      !(whole.isEmpty && fraction.isEmpty) then
    some { whole, fraction, negative := false, exponent := 0 }
  else none

/-- The number that a string writes, if it writes one. -/
def numberOfText (text : String) : Float :=
  let trimmed := Text.trimBy Text.isSpace text.toList
  match trimmed with
  | '-' :: digits =>
    match unsignedNumber? digits with
    | some n => Decimal.Numeral.toFloat { n with negative := true }
    | none => notANumber
  | digits =>
    match unsignedNumber? digits with
    | some n => n.toFloat
    | none => notANumber

/-- A number as a string: no exponent, and no fraction where there is none. -/
def textOfNumber (n : Float) : String :=
  if n.isNaN then "NaN"
  else if n.isInf then (if 0 < n then "Infinity" else "-Infinity")
  else if n == 0 then "0"
  else Decimal.plain n

namespace Value

/-- The type of a value. -/
def type : Value → ValueType
  | .nodeSet _ => .nodeSet
  | .boolean _ => .boolean
  | .number _ => .number
  | .string _ => .string

/-- The value as a boolean. -/
def toBoolean : Value → Bool
  | .nodeSet nodes => !nodes.isEmpty
  | .boolean b => b
  | .number n => n != 0 && !n.isNaN
  | .string s => !s.isEmpty

/-- The value as a number. -/
def toNumber : Value → Float
  | .nodeSet [] => notANumber
  | .nodeSet (n :: _) => numberOfText n.rawText
  | .boolean b => if b then 1 else 0
  | .number n => n
  | .string s => numberOfText s

/-- The value as a string. -/
def toText : Value → String
  | .nodeSet [] => ""
  | .nodeSet (n :: _) => n.rawText
  | .boolean b => if b then "true" else "false"
  | .number n => textOfNumber n
  | .string s => s

end Value

end HtmlQuery
