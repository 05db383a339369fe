import HtmlQuery.Tree.Basic

/-!
# Pieces of markup

Markup is a row of characters, tags, comments and document type declarations.  Names are in lower
case, and an attribute that repeats a name is dropped.
-/

namespace HtmlQuery.Markup

/-- A start tag. -/
structure Tag where
  /-- The name. -/
  name : String
  /-- The attributes. -/
  attributes : List Attribute
  /-- Whether it ends with a slash. -/
  closed : Bool
deriving Repr

/-- A document type declaration. -/
structure Doctype where
  /-- The name. -/
  name : Option String := none
  /-- The identifier that is public. -/
  publicId : Option String := none
  /-- The identifier that is an address. -/
  systemId : Option String := none
  /-- Whether it is not as it should be. -/
  broken : Bool := false
deriving Repr

/-- A piece of markup. -/
inductive Token where
  /-- One character of the text. -/
  | character (c : Char)
  /-- A start tag. -/
  | opening (tag : Tag)
  /-- An end tag. -/
  | closing (name : String)
  /-- A comment. -/
  | comment (content : String)
  /-- A document type declaration. -/
  | doctype (declaration : Doctype)
  /-- The end of the markup. -/
  | ending
deriving Repr

/-- The value of an attribute of a tag. -/
def Tag.attribute? (tag : Tag) (name : String) : Option String :=
  (tag.attributes.find? (·.name == name)).map (·.value)

/-- Whether two tags have the same name and the same attributes, in any order. -/
def Tag.isLike (tag other : Tag) : Bool :=
  tag.name == other.name && tag.attributes.length == other.attributes.length &&
    tag.attributes.all other.attributes.contains

end HtmlQuery.Markup
