import HtmlQuery.Query.Error
import HtmlQuery.Query.Lexer
import HtmlQuery.Search.Condition

/-!
# Query templates

The text of an expression that looks everywhere below a node for a tag, an attribute or a value.
Names are written as they are, so `Template.expression` refuses a text that is no name.  A value is
written as a literal.

A literal has no escape, so a value with both kinds of quotes is written as a concatenation: its
pieces between apostrophes, each in apostrophes, and between them the apostrophe in double quotes.
-/

namespace HtmlQuery

/-- The pieces of a text between the occurrences of a character. -/
def piecesAt (c : Char) (text : List Char) : List (List Char) :=
  Text.splitBy (· == c) text

/-- A text between two quotes of one kind. -/
def between (quote : Char) (text : List Char) : List Char :=
  quote :: text ++ [quote]

/-- A value as an expression. -/
def quoteLiteral (value : String) : String :=
  let text := value.toList
  if !text.contains '\'' then String.ofList (between '\'' text)
  else if !text.contains '"' then String.ofList (between '"' text)
  else
    let pieces := (piecesAt '\'' text).map (between '\'')
    let separator := [',', ' ', '"', '\'', '"', ',', ' ']
    "concat(" ++ String.ofList (separator.intercalate pieces) ++ ")"

/-- A query for a tag or an attribute below a node. -/
inductive Template where
  /-- Elements with a tag. -/
  | ofTag (tag : String)
  /-- Elements with a tag that carry an attribute. -/
  | tagWithAttribute (tag name : String)
  /-- Elements that carry an attribute. -/
  | withAttribute (name : String)
  /-- Elements with an attribute whose value compares with a given one. -/
  | attributeValue (name : String) (mode : Matching) (value : String)
  /-- Elements whose whole class attribute is a given one. -/
  | withClass (value : String)
deriving DecidableEq, Repr

namespace Template

/-- The condition that a template puts on an attribute, as a predicate. -/
def attributePredicate (name : String) (mode : Matching) (value : String) : String :=
  let quoted := quoteLiteral value
  match mode with
  | .equals => "[@" ++ name ++ "=" ++ quoted ++ "]"
  | .contains => "[@" ++ name ++ " and contains(@" ++ name ++ ", " ++ quoted ++ ")]"
  | .beginsWith => "[@" ++ name ++ " and starts-with(@" ++ name ++ ", " ++ quoted ++ ")]"
  | .endsWith =>
    "[@" ++ name ++ " and substring(@" ++ name ++ ", string-length(@" ++ name ++
      ") - string-length(" ++ quoted ++ ") + 1) = " ++ quoted ++ "]"
  | .present => "[@" ++ name ++ "]"

/-- The text of a template, its names as they are. -/
def text : Template → String
  | .ofTag tag => ".//" ++ tag
  | .tagWithAttribute tag name => ".//" ++ tag ++ "[@" ++ name ++ "]"
  | .withAttribute name => ".//*[@" ++ name ++ "]"
  | .attributeValue name mode value => ".//*" ++ attributePredicate name mode value
  | .withClass value => ".//*[@class=" ++ quoteLiteral value ++ "]"

/-- The names that a template writes. -/
def names : Template → List String
  | .ofTag tag => [tag]
  | .tagWithAttribute tag name => [tag, name]
  | .withAttribute name => [name]
  | .attributeValue name _ _ => [name]
  | .withClass _ => []

/-- The expression of a template, if its names are names. -/
def expression (t : Template) : Except QueryError String :=
  match t.names.find? (! isNameText ·) with
  | some name => .error ⟨.invalidName name, 0⟩
  | none => .ok t.text

end Template

end HtmlQuery
