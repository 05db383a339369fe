import HtmlQuery.Text.Blank
import HtmlQuery.Text.Digit

/-!
# Tables of characters

A table says something of ranges of code points.  It is written as words with white space between
them: a code point or two with a hyphen between them, an equals sign, and what is said of the range.
Code points are in hexadecimal digits and ascend.

`readTable` reads the words.  `valueAt?` finds the row with a code point by halving.
-/

namespace HtmlQuery.Text

/-- A row of a table. -/
structure Row (α : Type) where
  /-- The first code point. -/
  first : Nat
  /-- The last code point. -/
  last : Nat
  /-- What is said of them. -/
  value : α

/-! ## Reading -/

/-- The words of a text, in order. -/
def wordsOf (text : String) : Array (List Char) :=
  let step (state : Array (List Char) × List Char) (c : Char) : Array (List Char) × List Char :=
    if c == ' ' || c == '\n' then
      if state.2.isEmpty then state else (state.1.push state.2.reverse, [])
    else (state.1, c :: state.2)
  let (words, last) := (text ++ " ").foldl step (#[], [])
  if last.isEmpty then words else words.push last.reverse

/-- The number that digits of sixteen write. -/
def natOfHex? (digits : List Char) : Option Nat :=
  if digits.isEmpty then none
  else digits.foldl (fun n c => do return 16 * (← n) + (← hexValue? c)) (some 0)

/-- The characters whose code points stand with points between them. -/
def charsOfHex? (codes : List Char) : Option (List Char) :=
  (splitBy (· == '.') codes).mapM fun digits => (natOfHex? digits).map Char.ofNat

/-- A row, given how what is said is read. -/
def readRow? {α : Type} (read? : List Char → Option α) (word : List Char) : Option (Row α) := do
  let range := word.takeWhile (· != '=')
  let value ← read? (word.drop (range.length + 1))
  let first ← natOfHex? (range.takeWhile (· != '-'))
  let last := (natOfHex? ((range.dropWhile (· != '-')).drop 1)).getD first
  return ⟨first, last, value⟩

/-- The rows of a table, given how what is said is read. -/
def readTable {α : Type} (read? : List Char → Option α) (text : String) : Array (Row α) :=
  (wordsOf text).filterMap (readRow? read?)

/-- The bounds of a set of code points. -/
def readBounds (text : String) : Array Nat :=
  (wordsOf text).filterMap natOfHex?

/-! ## Looking up -/

/-- How many rows begin at a code point or before it, if `lo` rows do and those from `hi` on do
not. -/
def countBefore {α : Type} (rows : Array (Row α)) (n lo hi : Nat) : Nat :=
  if lo < hi then
    let middle := (lo + hi) / 2
    if rows[middle]?.any (·.first ≤ n) then countBefore rows n (middle + 1) hi
    else countBefore rows n lo middle
  else lo
termination_by hi - lo

/-- The row with a code point. -/
def rowAt? {α : Type} (rows : Array (Row α)) (n : Nat) : Option (Row α) :=
  (rows[countBefore rows n 0 rows.size - 1]?).filter fun row => row.first ≤ n && n ≤ row.last

/-- What is said of a code point. -/
def valueAt? {α : Type} (rows : Array (Row α)) (n : Nat) : Option α :=
  (rowAt? rows n).map (·.value)

end HtmlQuery.Text
