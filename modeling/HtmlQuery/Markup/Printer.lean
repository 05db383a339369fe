import HtmlQuery.Markup.Content
import HtmlQuery.Tree.Node

/-!
# Trees as markup

A text is escaped unless its parent is one of the elements whose content is raw.  The parent counts
only if it is printed too: the markup of the children alone starts without a parent.

An element that has no end tag is printed as its start tag.  Elements inside it print no tags, and
all else inside it is printed.  Only the elements of pages are raw or have no end tag.
-/

namespace HtmlQuery.Markup

/-- One character of a text. -/
def escapeTextChar (c : Char) : List Char :=
  if c == '&' then "&amp;".toList
  else if c == '\u00A0' then "&nbsp;".toList
  else if c == '<' then "&lt;".toList
  else if c == '>' then "&gt;".toList
  else [c]

/-- One character of the value of an attribute. -/
def escapeValueChar (c : Char) : List Char :=
  if c == '&' then "&amp;".toList
  else if c == '\u00A0' then "&nbsp;".toList
  else if c == '"' then "&quot;".toList
  else [c]

/-- A text as it stands between tags. -/
def escapeText (s : String) : String :=
  String.ofList (s.toList.flatMap escapeTextChar)

/-- The value of an attribute as it stands between double quotes. -/
def escapeValue (s : String) : String :=
  String.ofList (s.toList.flatMap escapeValueChar)

/-- The name of an attribute with what qualifies it.  The declaration of the language of an element
is not qualified twice. -/
def qualifiedName (a : Attribute) : String :=
  match a.qualifier with
  | .plain => a.name
  | .xlink => "xlink:" ++ a.name
  | .xml => "xml:" ++ a.name
  | .xmlns => if a.name == "xmlns" then a.name else "xmlns:" ++ a.name

/-- A start tag. -/
def startTag (tag : String) (attributes : List Attribute) : String :=
  let written := attributes.map fun a =>
    " " ++ qualifiedName a ++ "=\"" ++ escapeValue a.value ++ "\""
  "<" ++ tag ++ String.join written ++ ">"

/-- An end tag. -/
def endTag (tag : String) : String :=
  "</" ++ tag ++ ">"

/-- What the elements around a node make of it. -/
structure Surroundings where
  /-- Whether texts are written as they are. -/
  raw : Bool := false
  /-- Whether elements write no tags. -/
  untagged : Bool := false

/-- Whether an element has no end tag. -/
def isVoid (vocabulary : Vocabulary) (tag : String) : Bool :=
  vocabulary == .html && voidTags.contains tag

/-- Whether the text in an element is written as it is. -/
def isRaw (vocabulary : Vocabulary) (tag : String) : Bool :=
  vocabulary == .html && rawTags.contains tag

/-- What an element makes of its children. -/
def Surroundings.inside (around : Surroundings) (vocabulary : Vocabulary) (tag : String) :
    Surroundings :=
  ⟨isRaw vocabulary tag, around.untagged || isVoid vocabulary tag⟩

mutual

/-- The markup of a tree. -/
def ofTree (around : Surroundings) : Tree → String
  | .node .document children => ofForest around children
  | .node .fragment children => ofForest around children
  | .node (.doctype name) _ => "<!DOCTYPE " ++ name ++ ">"
  | .node (.text content) _ => if around.raw then content else escapeText content
  | .node (.comment content) _ => "<!--" ++ content ++ "-->"
  | .node (.instruction target data) _ => "<?" ++ target ++ " " ++ data ++ ">"
  | .node (.element vocabulary tag attributes) children =>
    let inside := ofForest (around.inside vocabulary tag) children
    if around.untagged then inside
    else if isVoid vocabulary tag then startTag tag attributes ++ inside
    else startTag tag attributes ++ inside ++ endTag tag

/-- The markup of a list of trees. -/
def ofForest (around : Surroundings) : List Tree → String
  | [] => ""
  | t :: ts => ofTree around t ++ ofForest around ts

end

end HtmlQuery.Markup

namespace HtmlQuery.Node

/-- The markup of the node.  That of an attribute is its name and its value as it is between double
quotes. -/
def markup : Node → String
  | .inner place => Markup.ofTree {} place.focus
  | .attribute owner index =>
    let a := owner.attributes.get index
    a.name ++ "=\"" ++ a.value ++ "\""

/-- The markup of the children of the node. -/
def innerMarkup : Node → String
  | .inner place => Markup.ofForest {} place.focus.children
  | .attribute .. => ""

end HtmlQuery.Node
