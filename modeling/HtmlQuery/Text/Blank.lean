/-!
# Blank characters

Two sets of blank characters are used.  `isBlank` is the `White_Space` property of Unicode, which
the accessors of a tree trim by.  `isSpace` is the four characters that separate words inside an
expression: space, tab, line feed and carriage return.

Each set is a parameter of the same four operations.  `trimBy` drops the blanks at both ends,
`squeezeBy` writes one space for every run of blanks, and `wordsBy` gives the maximal runs of
characters that are not blank.  `collapse` trims and squeezes by `isBlank`, `normalizeSpace` joins
the words of `isSpace`.
-/

namespace HtmlQuery.Text

/-- The `White_Space` property. -/
def isBlank (c : Char) : Bool :=
  let n := c.toNat
  (9 ≤ n && n ≤ 13) || n == 0x20 || n == 0x85 || n == 0xA0 || n == 0x1680 ||
    (0x2000 ≤ n && n ≤ 0x200A) || n == 0x2028 || n == 0x2029 || n == 0x202F || n == 0x205F ||
    n == 0x3000

/-- The white space of expressions: space, tab, line feed and carriage return. -/
def isSpace (c : Char) : Bool :=
  c == ' ' || c == '\t' || c == '\n' || c == '\r'

/-- The white space of ASCII: `isSpace` and the form feed. -/
def isAsciiBlank (c : Char) : Bool :=
  isSpace c || c == '\x0c'

/-- Drops the characters of a class at the end. -/
def dropEndBy (p : Char → Bool) (s : List Char) : List Char :=
  (s.reverse.dropWhile p).reverse

/-- Drops the characters of a class at both ends. -/
def trimBy (p : Char → Bool) (s : List Char) : List Char :=
  dropEndBy p (s.dropWhile p)

/-- Writes one space for every run of characters of a class.  The flag says that the run at the
front has been written already. -/
def squeezeFrom (p : Char → Bool) : Bool → List Char → List Char
  | _, [] => []
  | inRun, c :: cs =>
    if p c then
      if inRun then squeezeFrom p true cs else ' ' :: squeezeFrom p true cs
    else c :: squeezeFrom p false cs

/-- Writes one space for every run of characters of a class. -/
def squeezeBy (p : Char → Bool) (s : List Char) : List Char :=
  squeezeFrom p false s

/-- Cuts a text at every character of a class.  The pieces may be empty. -/
def splitBy (p : Char → Bool) : List Char → List (List Char)
  | [] => [[]]
  | c :: cs =>
    if p c then [] :: splitBy p cs
    else
      match splitBy p cs with
      | [] => [[c]]
      | w :: ws => (c :: w) :: ws

/-- The maximal runs of characters outside a class, in order. -/
def wordsBy (p : Char → Bool) (s : List Char) : List (List Char) :=
  (splitBy p s).filter (! ·.isEmpty)

/-- Joins words by single spaces. -/
def joinWords (words : List (List Char)) : List Char :=
  [' '].intercalate words

/-- Drops the blanks at both ends. -/
def trim (s : String) : String :=
  String.ofList (trimBy isBlank s.toList)

/-- Drops the blanks at the front. -/
def trimStart (s : String) : String :=
  String.ofList (s.toList.dropWhile isBlank)

/-- Drops the blanks at both ends and writes one space for every run of blanks inside. -/
def collapse (s : String) : String :=
  String.ofList (squeezeBy isBlank (trimBy isBlank s.toList))

/-- The words between the white space of expressions, joined by single spaces. -/
def normalizeSpace (s : String) : String :=
  String.ofList (joinWords (wordsBy isSpace s.toList))

end HtmlQuery.Text
