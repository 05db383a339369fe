/-!
# Patterns over characters

A pattern is a list of pieces followed by a nonempty run of characters, which it captures.  A piece
takes one character of a class, or one or none, or any number.  A piece that has a choice takes as
much as it can, and less only if the rest of the pattern does not match otherwise.  The run takes
all that it can.

`Pattern.capture?` matches at the front of a text, and `Pattern.find?` at the first place where the
pattern matches.
-/

namespace HtmlQuery.Text

/-- A part of a pattern. -/
inductive Piece where
  /-- One character of a class. -/
  | one (p : Char → Bool)
  /-- One character of a class, or nothing. -/
  | optional (p : Char → Bool)
  /-- Any number of characters of a class. -/
  | many (p : Char → Bool)

/-- Pieces, and the class of the characters captured after them. -/
structure Pattern where
  /-- The pieces. -/
  pieces : List Piece
  /-- The class of the captured characters. -/
  captured : Char → Bool

/-- Takes any number of characters of a class, as many as `next` lets it. -/
def takeMany {α : Type} (p : Char → Bool) (next : List Char → Option α) : List Char → Option α
  | [] => next []
  | c :: cs =>
    if p c then (takeMany p next cs).or (next (c :: cs)) else next (c :: cs)

/-- Takes what a piece stands for and goes on with `next`. -/
def Piece.take {α : Type} (piece : Piece) (next : List Char → Option α) (s : List Char) :
    Option α :=
  match piece, s with
  | .one p, c :: cs => if p c then next cs else none
  | .one _, [] => none
  | .optional p, c :: cs => if p c then (next cs).or (next (c :: cs)) else next (c :: cs)
  | .optional _, [] => next []
  | .many p, s => takeMany p next s

/-- What the captured run is after these pieces, at the front of a text. -/
def captureAfter? (captured : Char → Bool) : List Piece → List Char → Option (List Char)
  | [], s =>
    match s.takeWhile captured with
    | [] => none
    | c :: cs => some (c :: cs)
  | piece :: pieces, s => piece.take (captureAfter? captured pieces) s

/-- What a pattern captures at the front of a text. -/
def Pattern.capture? (pattern : Pattern) (s : List Char) : Option (List Char) :=
  captureAfter? pattern.captured pattern.pieces s

/-- What a pattern captures at the first place where it matches. -/
def Pattern.find? (pattern : Pattern) : List Char → Option (List Char)
  | [] => pattern.capture? []
  | c :: cs => (pattern.capture? (c :: cs)).or (pattern.find? cs)

/-! ## Letters -/

/-- Whether two characters are the same letter of ASCII in upper or lower case.  The long s and the
sign for kelvin are the letters s and k as well. -/
def sameLetter (a b : Char) : Bool :=
  let fold (c : Char) : Char :=
    if c == '\u017F' then 's' else if c == '\u212A' then 'k' else c.toLower
  fold a == fold b

/-- The pieces that match a word, whatever the case of its letters. -/
def word (s : String) : List Piece :=
  s.toList.map fun c => .one (sameLetter c)

end HtmlQuery.Text
