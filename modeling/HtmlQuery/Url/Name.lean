import HtmlQuery.Text.Mark
import HtmlQuery.Text.Normal
import HtmlQuery.Url.Name.Direction
import HtmlQuery.Url.Name.Joining
import HtmlQuery.Url.Name.Mapping
import HtmlQuery.Url.Punycode

/-!
# Names of hosts

A name is a list of labels with points between them.  `toAscii?` writes a name in the one way in
which it goes into a URL: in small letters, in the normal form, and every label with characters
beyond ASCII in Punycode.  A label may be in Punycode before.  Then it has to be what it would
become if it were not.

A label does not begin with a mark, its joiners stand where they may, and if any label of the name
is written from right to left then all labels are clear about directions.
-/

namespace HtmlQuery.Url.Name

open Text (rowAt? inRanges)

/-- Whether a character is in ASCII. -/
def isAscii (c : Char) : Bool :=
  c.toNat < 0x80

/-- What a character from the `distance`th of its range on is replaced by. -/
def Replacement.apply (r : Replacement) (distance : Nat) (c : Char) : List Char :=
  match r with
  | .up n => [Char.ofNat (c.toNat + n)]
  | .down n => [Char.ofNat (c.toNat - n)]
  | .next => [if distance % 2 = 0 then Char.ofNat (c.toNat + 1) else c]
  | .text replacement => replacement

/-- What a character becomes in a name, if it has a place in one. -/
def mapChar? (c : Char) : Option (List Char) :=
  if isAscii c then some [c.toLower]
  else
    match rowAt? replacements c.toNat with
    | some row => some (row.value.apply (c.toNat - row.first) c)
    | none =>
      if inRanges ignoredBounds c.toNat then some []
      else if inRanges allowedBounds c.toNat then some [c]
      else none

/-- What a text becomes in a name. -/
def mapText? (s : List Char) : Option (List Char) :=
  (s.mapM mapChar?).map fun pieces => Text.normalize pieces.flatten

/-- What stands before a label in Punycode. -/
def punycodeMark : List Char :=
  "xn--".toList

/-- The most characters of a label that is written in Punycode. -/
def mostCharacters : Nat := 1000

/-- The most digits of a label in Punycode. -/
def mostDigits : Nat := 2000

/-- A label with the characters that it stands for. -/
def readLabel? (label : List Char) : Option (List Char) :=
  if punycodeMark.isPrefixOf label then do
    let digits := label.drop 4
    let read ← Punycode.decode? digits
    if digits.length ≤ mostDigits && !read.all isAscii && mapText? read == some read then
      return read
    else none
  else some label

/-- Whether a label may stand in a name, directions aside. -/
def isLabel (label : List Char) : Bool :=
  !label.head?.any Text.isMark && joinersFit [] label

/-- A label in ASCII. -/
def writeLabel? (label : List Char) : Option (List Char) :=
  if label.all isAscii then some label
  else if label.length ≤ mostCharacters then some (punycodeMark ++ Punycode.encode label)
  else none

/-- The labels of a name, each with the characters that it stands for. -/
def labels? (s : List Char) : Option (List (List Char)) := do
  let labels ← (Text.splitBy (· == '.') (← mapText? s)).mapM readLabel?
  let fromRight := labels.any (·.any isRightToLeft)
  if labels.all fun label => isLabel label && (!fromRight || hasClearDirection label) then
    return labels
  else none

/-- A name in ASCII. -/
def toAscii? (s : List Char) : Option (List Char) := do
  let written ← (← labels? s).mapM writeLabel?
  return ['.'].intercalate written

end HtmlQuery.Url.Name
