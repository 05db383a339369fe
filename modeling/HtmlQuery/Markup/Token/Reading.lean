import HtmlQuery.Markup.Token.Declaration

/-!
# Reading tokens

What a character begins depends on the element that is open: some elements hold only text, up to
their end tag.  A `Reading` says which, and `readTokens` reads what one character begins and says
how reading goes on.

A script may hide its end tag in a comment.  A comment in a script hides everything from a start tag
of a script to the next end tag of one, and ends with the usual three characters.
-/

namespace HtmlQuery.Markup

open Text (Front isAsciiBlank)

/-- Where in a script a character stands. -/
inductive ScriptPart where
  /-- Outside comments. -/
  | code
  /-- In a comment, after so many dashes. -/
  | comment (dashes : Nat)
  /-- In a script in a comment, after so many dashes. -/
  | hidden (dashes : Nat)
deriving DecidableEq, Repr

/-- How characters are read. -/
inductive Reading where
  /-- As markup. -/
  | markup
  /-- As text with character references, up to the end tag of an element. -/
  | text (tag : String)
  /-- As text, up to the end tag of an element. -/
  | raw (tag : String)
  /-- As a script. -/
  | script (part : ScriptPart)
  /-- As text to the end. -/
  | plain
deriving DecidableEq, Repr

/-! ## Scripts -/

/-- Whether a name stands here and ends. -/
def standsHere (name : String) (s : List Char) : Bool :=
  beginsWith name s &&
    match s.drop name.length with
    | c :: _ => !(inTagName c)
    | [] => false

/-- Whether an end tag of an element begins here, after the character `<`. -/
def closesHere (tag : String) : List Char → Bool
  | '/' :: s => standsHere tag s
  | _ => false

/-- The part of a script after a character of a comment that is no `<`. -/
def afterCommentChar (part : Nat → ScriptPart) (dashes : Nat) (c : Char) : ScriptPart :=
  if c == '-' then part (min (dashes + 1) 2)
  else if c == '>' && dashes == 2 then .code
  else part 0

/-- How many characters after a character of a script belong to it, and the part of the script after
them. -/
def scriptStep (part : ScriptPart) (c : Char) (s : List Char) : Nat × ScriptPart :=
  match part with
  | .code => if c == '<' && s.take 3 == "!--".toList then (3, .comment 2) else (0, .code)
  | .comment dashes =>
    if c == '<' && standsHere "script" s then (7, .hidden 0)
    else (0, afterCommentChar .comment dashes c)
  | .hidden dashes =>
    if c == '<' && closesHere "script" s then (8, .comment 0)
    else (0, afterCommentChar .hidden dashes c)

/-- Whether the end tag of a script that begins here ends it. -/
def ScriptPart.ends : ScriptPart → Bool
  | .hidden _ => false
  | _ => true

/-! ## Tokens -/

/-- A character of a text without markup. -/
def characterOf (c : Char) : Token :=
  .character (shown c)

/-- What the characters `c` and `s` begin as markup. -/
def readMarkup (foreign : Bool) (c : Char) (s : List Char) : Front (List Token) s :=
  match (if c == '<' then readMarkup? foreign s else none) with
  | some found => found
  | none =>
    match (if c == '&' then reference? false s else none) with
    | some found => found.map (·.map .character)
    | none => .here [.character c] s

/-- What the characters `c` and `s` begin as markup, which goes on. -/
def readOn (foreign : Bool) (c : Char) (s : List Char) : Front (List Token × Reading) s :=
  (readMarkup foreign c s).map (·, .markup)

/-- What the characters `c` and `s` begin, and how the reading goes on. -/
def readTokens (reading : Reading) (foreign : Bool) (c : Char) (s : List Char) :
    Front (List Token × Reading) s :=
  match reading with
  | .markup => readOn foreign c s
  | .text tag =>
    if c == '<' then
      if closesHere tag s then readOn foreign c s else .here ([characterOf c], reading) s
    else (readMarkup foreign (shown c) s).map (·, reading)
  | .raw tag =>
    if c == '<' && closesHere tag s then readOn foreign c s
    else .here ([characterOf c], reading) s
  | .script part =>
    if c == '<' && part.ends && closesHere "script" s then readOn foreign c s
    else
      let (length, next) := scriptStep part c s
      (Front.drop length s).map fun _ => ((c :: s.take length).map characterOf, .script next)
  | .plain => .here ([characterOf c], reading) s

end HtmlQuery.Markup
