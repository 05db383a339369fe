import HtmlQuery.Markup.Token.Tag

/-!
# Reading comments and document type declarations

A declaration begins with an exclamation mark in a tag.  It is a comment, a document type or, in a
drawing or a formula, a section of plain characters.  Everything else is a loose comment, which goes
on to the end of the tag.

A document type that is not as it should be is broken, and what follows the fault is passed by.  A
comment that the end of the text cuts off is kept.
-/

namespace HtmlQuery.Markup

open Text (Front isAsciiBlank)

/-! ## Comments -/

/-- The text up to the end of a tag, which is passed. -/
def readPastTag (s : List Char) : Front (List Char) s :=
  let content := Front.takeWhile (· != '>') s
  content.andThen ((Front.drop 1 content.rest).map fun _ => content.value)

/-- The token of a comment with this text. -/
def commentOf (content : List Char) : Token :=
  .comment (String.ofList (showNulls content))

/-- A comment of any text up to the end of a tag. -/
def readLooseComment (s : List Char) : Front (List Token) s :=
  (readPastTag s).map fun content => [commentOf content]

/-- The text of a comment up to its end, which is passed. -/
def readCommentText : (s : List Char) → Front (List Char) s
  | '-' :: '-' :: '>' :: rest => (((Front.here [] rest).behind '>').behind '-').behind '-'
  | '-' :: '-' :: '!' :: '>' :: rest =>
    ((((Front.here [] rest).behind '>').behind '!').behind '-').behind '-'
  | ['-', '-', '!'] => .whole [] _
  | ['-', '-'] => .whole [] _
  | ['-'] => .whole [] _
  | [] => .whole [] _
  | c :: rest => ((readCommentText rest).map (c :: ·)).behind c

/-- The text of a comment, which may end where it begins. -/
def readComment : (s : List Char) → Front (List Char) s
  | '>' :: rest => (Front.here [] rest).behind '>'
  | '-' :: '>' :: rest => ((Front.here [] rest).behind '>').behind '-'
  | s => readCommentText s

/-! ## Sections of plain characters -/

/-- The characters up to the end of a section, which is passed. -/
def readSection : (s : List Char) → Front (List Token) s
  | ']' :: ']' :: '>' :: rest => (((Front.here [] rest).behind '>').behind ']').behind ']'
  | [] => .whole [] _
  | c :: rest => ((readSection rest).map (.character c :: ·)).behind c

/-! ## Document types -/

/-- A declaration up to the end of its tag, passing by what stands there. -/
def skipDoctype (d : Doctype) (s : List Char) : Front Doctype s :=
  (readPastTag s).map fun _ => d

/-- The end of a declaration after a quote.  It is broken if the text ends here. -/
def endDoctype (d : Doctype) : (s : List Char) → Front Doctype s
  | [] => .here { d with broken := true } []
  | s => skipDoctype d s

/-- How an identifier ends. -/
inductive QuoteEnd where
  /-- With its quote. -/
  | quoted
  /-- With the tag or with the text.  Then the declaration is broken. -/
  | cutOff
deriving DecidableEq, Repr

/-- The end of an identifier, which is passed. -/
def readQuoteEnd (quote : Char) : (s : List Char) → Front QuoteEnd s
  | [] => .here .cutOff []
  | c :: rest => (Front.here (if c == quote then .quoted else .cutOff) rest).behind c

/-- An identifier up to its quote or to the end of the tag, which is passed. -/
def readIdentifier (quote : Char) (s : List Char) : Front (String × QuoteEnd) s :=
  let content := Front.takeWhile (fun c => !(c == quote || c == '>')) s
  content.andThen <| (readQuoteEnd quote content.rest).map fun found =>
    (String.ofList (showNulls content.value), found)

/-- A system identifier after its quote, and the rest of the declaration. -/
def readSystemId (d : Doctype) (quote : Char) (s : List Char) : Front Doctype s :=
  let found := readIdentifier quote s
  let d := { d with systemId := some found.value.1 }
  match found.value.2 with
  | .quoted =>
    let blanks := Front.takeWhile isAsciiBlank found.rest
    found.andThen (blanks.andThen (endDoctype d blanks.rest))
  | .cutOff => found.map fun _ => { d with broken := true }

/-- What follows the word for a system identifier.  The declaration is broken without one. -/
def readSystem (d : Doctype) : (s : List Char) → Front Doctype s
  | [] => .here { d with broken := true } []
  | c :: rest =>
    if c == '"' || c == '\'' then (readSystemId d c rest).behind c
    else skipDoctype { d with broken := true } (c :: rest)

/-- What follows a public identifier: a system identifier or the end. -/
def readAfterPublic (d : Doctype) : (s : List Char) → Front Doctype s
  | '>' :: rest => (Front.here d rest).behind '>'
  | s => readSystem d s

/-- A public identifier after its quote, and the rest of the declaration. -/
def readPublicId (d : Doctype) (quote : Char) (s : List Char) : Front Doctype s :=
  let found := readIdentifier quote s
  let d := { d with publicId := some found.value.1 }
  match found.value.2 with
  | .quoted =>
    let blanks := Front.takeWhile isAsciiBlank found.rest
    found.andThen (blanks.andThen (readAfterPublic d blanks.rest))
  | .cutOff => found.map fun _ => { d with broken := true }

/-- What follows the word for a public identifier.  The declaration is broken without one. -/
def readPublic (d : Doctype) : (s : List Char) → Front Doctype s
  | [] => .here { d with broken := true } []
  | c :: rest =>
    if c == '"' || c == '\'' then (readPublicId d c rest).behind c
    else skipDoctype { d with broken := true } (c :: rest)

/-- Whether a text begins with a word, in any case. -/
def beginsWith (word : String) (s : List Char) : Bool :=
  (s.take word.length).map Char.toLower == word.toList

/-- What follows the name of a document type. -/
def readAfterName (d : Doctype) : (s : List Char) → Front Doctype s
  | [] => .here { d with broken := true } []
  | '>' :: rest => (Front.here d rest).behind '>'
  | s =>
    let word := Front.drop 6 s
    let blanks := Front.takeWhile isAsciiBlank word.rest
    if beginsWith "public" s then word.andThen (blanks.andThen (readPublic d blanks.rest))
    else if beginsWith "system" s then word.andThen (blanks.andThen (readSystem d blanks.rest))
    else skipDoctype { d with broken := true } s

/-- A document type declaration, after the word that begins it. -/
def readDoctype (s : List Char) : Front Doctype s :=
  let before := Front.takeWhile isAsciiBlank s
  let name := Front.takeWhile (fun c => !(isAsciiBlank c || c == '>')) before.rest
  let after := Front.takeWhile isAsciiBlank name.rest
  if name.value.isEmpty then before.andThen (skipDoctype { broken := true } before.rest)
  else
    let d : Doctype := { name := some (nameOf name.value) }
    before.andThen (name.andThen (after.andThen (readAfterName d after.rest)))

/-! ## Declarations -/

/-- What begins with an exclamation mark in a tag.  The flag says whether it stands in a drawing or
a formula. -/
def readDeclaration (foreign : Bool) (s : List Char) : Front (List Token) s :=
  match Front.drop? ['-', '-'] s with
  | some tail =>
    tail.andThen ((readComment tail.rest).map fun content => [commentOf content])
  | none =>
    if beginsWith "doctype" s then
      (Front.drop 7 s).andThen ((readDoctype _).map fun d => [.doctype d])
    else
      match (if foreign then Front.drop? "[CDATA[".toList s else none) with
      | some tail => tail.andThen (readSection tail.rest)
      | none => readLooseComment s

/-- The tokens that the character `<` and what follows it begin with.  `none` if the character
stands for itself. -/
def readMarkup? (foreign : Bool) : (s : List Char) → Option (Front (List Token) s)
  | [] => none
  | '!' :: s => some ((readDeclaration foreign s).behind '!')
  | '?' :: s => some (readLooseComment ('?' :: s))
  | ['/'] => none
  | '/' :: '>' :: rest => some (((Front.here [] rest).behind '>').behind '/')
  | '/' :: c :: rest =>
    if c.isAlpha then some (((readClosing c rest).behind c).behind '/')
    else some ((readLooseComment (c :: rest)).behind '/')
  | c :: rest => if c.isAlpha then some ((readOpening c rest).behind c) else none

end HtmlQuery.Markup
