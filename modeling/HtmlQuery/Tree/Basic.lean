/-!
# Markup trees

A `Tree` is a label and an ordered list of subtrees.  The label says what the node at the top is:
the document itself, an element with its attributes, a text, a comment and so on.  Attributes
belong to the label of their element, in source order, and a name may repeat.  An element and an
attribute are named by their tag and name alone: the language that an element comes from and what
qualifies an attribute only matter to how they are written.

Functions on trees come in pairs, one for a tree and one for a list of trees, by recursion on the
structure.
-/

namespace HtmlQuery

/-- The languages that elements come from. -/
inductive Vocabulary where
  /-- Pages. -/
  | html
  /-- Drawings. -/
  | svg
  /-- Formulas. -/
  | math
deriving DecidableEq, Repr

/-- What an attribute is qualified by. -/
inductive Qualifier where
  /-- Nothing. -/
  | plain
  /-- Links. -/
  | xlink
  /-- Properties of every language. -/
  | xml
  /-- Declarations of languages. -/
  | xmlns
deriving DecidableEq, Repr

/-- A name and a value. -/
structure Attribute where
  /-- The name, without what qualifies it. -/
  name : String
  /-- The value. -/
  value : String
  /-- What qualifies the name. -/
  qualifier : Qualifier := .plain
deriving DecidableEq, Repr

/-- What a node is, apart from its children. -/
inductive Label where
  /-- The node above the root element of a whole page. -/
  | document
  /-- The node above the content of a fragment. -/
  | fragment
  /-- A document type declaration. -/
  | doctype (name : String)
  /-- An element and its attributes in source order. -/
  | element (vocabulary : Vocabulary) (tag : String) (attributes : List Attribute)
  /-- Character data. -/
  | text (content : String)
  /-- A comment. -/
  | comment (content : String)
  /-- A processing instruction. -/
  | instruction (target data : String)
deriving DecidableEq, Repr

/-- A label with the subtrees below it, in order. -/
inductive Tree where
  | node (label : Label) (children : List Tree)

/-- The attributes that a label carries.  Only elements carry any. -/
def Label.attributes : Label → List Attribute
  | .element _ _ attributes => attributes
  | _ => []

/-- The label at the top. -/
def Tree.label : Tree → Label
  | .node label _ => label

/-- The subtrees directly below the top. -/
def Tree.children : Tree → List Tree
  | .node _ children => children

/-- The attributes of the node at the top. -/
def Tree.attributes (t : Tree) : List Attribute :=
  t.label.attributes

/-- Whether the node at the top is an element. -/
def Tree.isElement (t : Tree) : Bool :=
  match t.label with
  | .element .. => true
  | _ => false

/-- Whether the node at the top is a text. -/
def Tree.isText (t : Tree) : Bool :=
  match t.label with
  | .text _ => true
  | _ => false

mutual

/-- The number of nodes of a tree, attributes left out. -/
def Tree.size : Tree → Nat
  | .node _ children => 1 + sizeOfForest children

/-- The number of nodes of a list of trees, attributes left out. -/
def sizeOfForest : List Tree → Nat
  | [] => 0
  | t :: ts => t.size + sizeOfForest ts

end

mutual

/-- The number of nodes of a tree, attributes counted as nodes. -/
def Tree.weight : Tree → Nat
  | .node label children => 1 + label.attributes.length + weightOfForest children

/-- The number of nodes of a list of trees, attributes counted as nodes. -/
def weightOfForest : List Tree → Nat
  | [] => 0
  | t :: ts => t.weight + weightOfForest ts

end

/-- The text of a label: the content of a text, and nothing for every other label. -/
def Label.ownText : Label → String
  | .text content => content
  | _ => ""

mutual

/-- The texts at and below the top, joined in order. -/
def Tree.text : Tree → String
  | .node label children => label.ownText ++ textOfForest children

/-- The texts of a list of trees, joined in order. -/
def textOfForest : List Tree → String
  | [] => ""
  | t :: ts => t.text ++ textOfForest ts

end

end HtmlQuery
