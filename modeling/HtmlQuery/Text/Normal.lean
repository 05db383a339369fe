import HtmlQuery.Text.Normal.Table

/-!
# The normal form of a text

Many a letter with marks can be written in more than one way: as one character, or as a letter and
marks, and marks that do not touch each other in any order.  `normalize` gives one way of writing
(normalization form C): the marks of a letter are sorted by their classes, and then every letter and
a mark that there is one character for become this character.

A syllable of Hangul is one character too.  It is made of two or three letters by a rule.
-/

namespace HtmlQuery.Text

/-! ## Hangul -/

/-- The first of the syllables. -/
def firstSyllable : Nat := 0xAC00

/-- The letter that a syllable can begin with, counted from the first one. -/
def leadOf? (c : Char) : Option Nat :=
  if 0x1100 ≤ c.toNat && c.toNat < 0x1113 then some (c.toNat - 0x1100) else none

/-- The vowel of a syllable, counted from the first one. -/
def vowelOf? (c : Char) : Option Nat :=
  if 0x1161 ≤ c.toNat && c.toNat < 0x1176 then some (c.toNat - 0x1161) else none

/-- The letter that a syllable can end with, counted from one. -/
def tailOf? (c : Char) : Option Nat :=
  if 0x11A7 < c.toNat && c.toNat < 0x11C3 then some (c.toNat - 0x11A7) else none

/-- A syllable, counted from the first one. -/
def syllableOf? (c : Char) : Option Nat :=
  if firstSyllable ≤ c.toNat && c.toNat < firstSyllable + 11172 then
    some (c.toNat - firstSyllable)
  else none

/-- The letters of a syllable. -/
def lettersOf (syllable : Nat) : List Char :=
  let tail := syllable % 28
  [Char.ofNat (0x1100 + syllable / 588), Char.ofNat (0x1161 + syllable % 588 / 28)] ++
    if tail = 0 then [] else [Char.ofNat (0x11A7 + tail)]

/-- The syllable of two letters, or of a syllable and a letter. -/
def joinHangul? (a b : Char) : Option Char :=
  match leadOf? a, vowelOf? b, syllableOf? a, tailOf? b with
  | some lead, some vowel, _, _ => some (Char.ofNat (firstSyllable + 588 * lead + 28 * vowel))
  | _, _, some syllable, some tail =>
    if syllable % 28 = 0 then some (Char.ofNat (firstSyllable + syllable + tail)) else none
  | _, _, _, _ => none

/-! ## Taking apart -/

/-- The letter and the marks that a character is made of. -/
def decompose (c : Char) : List Char :=
  match syllableOf? c with
  | some syllable => lettersOf syllable
  | none => (valueAt? decompositions c.toNat).getD [c]

/-- Puts a mark among marks sorted by their classes, behind those of its own class. -/
def insertMark (mark : Char) : List Char → List Char
  | [] => [mark]
  | c :: cs =>
    if combiningClass mark < combiningClass c then mark :: c :: cs else c :: insertMark mark cs

/-- Sorts the marks of every letter.  The marks read since the last letter are sorted already. -/
def sortMarks (marks : List Char) : List Char → List Char
  | [] => marks
  | c :: cs =>
    if combiningClass c = 0 then marks ++ c :: sortMarks [] cs
    else sortMarks (insertMark c marks) cs

/-! ## Putting together -/

/-- The character that a letter and a mark become. -/
def join? (a b : Char) : Option Char :=
  match joinHangul? a b with
  | some c => some c
  | none =>
    let parts := decompose a ++ [b]
    (decompositions.find? fun row => row.value == parts).map fun row => Char.ofNat row.first

/-- Puts together a letter and what follows it.  `kept` are the marks between them that did not
become one with the letter, the last one first. -/
def composeFrom (letter : Char) (kept : List Char) : List Char → List Char
  | [] => letter :: kept.reverse
  | c :: cs =>
    let free :=
      match kept with
      | [] => true
      | last :: _ => combiningClass last < combiningClass c
    match if free then join? letter c else none with
    | some joined => composeFrom joined kept cs
    | none =>
      if combiningClass c = 0 then letter :: kept.reverse ++ composeFrom c [] cs
      else composeFrom letter (c :: kept) cs

/-- Puts together the letters and marks of a text. -/
def compose : List Char → List Char
  | [] => []
  | c :: cs => if combiningClass c = 0 then composeFrom c [] cs else c :: compose cs

/-- The normal form of a text. -/
def normalize (s : List Char) : List Char :=
  compose (sortMarks [] (s.flatMap decompose))

end HtmlQuery.Text
