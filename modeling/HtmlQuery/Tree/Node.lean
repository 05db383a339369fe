import HtmlQuery.Tree.Place
import HtmlQuery.Text.Blank

/-!
# Nodes

A `Node` is a place of a tree or one of the attributes of the element at a place.  The parent of an
attribute is its element.  An attribute has no siblings and nothing below it, and it is not a child
of its element.
-/

namespace HtmlQuery

/-- What a node is. -/
inductive NodeKind where
  | document
  | fragment
  | doctype
  | element
  | text
  | comment
  | instruction
  | attribute
deriving DecidableEq, Repr

/-- The kind of the nodes that carry a label. -/
def Label.kind : Label → NodeKind
  | .document => .document
  | .fragment => .fragment
  | .doctype _ => .doctype
  | .element .. => .element
  | .text _ => .text
  | .comment _ => .comment
  | .instruction .. => .instruction

/-- A place of a tree, or an attribute of the element at a place. -/
inductive Node where
  /-- The node at a place. -/
  | inner (place : Place)
  /-- One of the attributes at a place, by its position in source order. -/
  | attribute (owner : Place) (index : Fin owner.attributes.length)

namespace Node

/-- The place of a node.  For an attribute it is the place of its element. -/
def place : Node → Place
  | .inner place => place
  | .attribute owner _ => owner

/-- The tree that a node belongs to. -/
def tree (n : Node) : TreeId :=
  n.place.tree

/-- The position of an attribute among those of its element. -/
def attributeIndex? : Node → Option Nat
  | .inner _ => none
  | .attribute _ index => some index

/-- The name and the value of an attribute. -/
def asAttribute? : Node → Option Attribute
  | .inner _ => none
  | .attribute owner index => some owner.attributes[index]

/-! ## Kinds and names -/

/-- What the node is. -/
def kind : Node → NodeKind
  | .inner place => place.label.kind
  | .attribute .. => .attribute

/-- Whether the node is an element. -/
def isElement (n : Node) : Bool :=
  n.kind == .element

/-- Whether the node is a text. -/
def isText (n : Node) : Bool :=
  n.kind == .text

/-- Whether the node is a comment. -/
def isComment (n : Node) : Bool :=
  n.kind == .comment

/-- Whether the node is an attribute. -/
def isAttribute (n : Node) : Bool :=
  n.kind == .attribute

/-- Whether the node is the top of a page or of a fragment. -/
def isDocument (n : Node) : Bool :=
  n.kind == .document || n.kind == .fragment

/-- The tag of an element, the name of an attribute. -/
def tagName? : Node → Option String
  | .inner place =>
    match place.label with
    | .element _ tag _ => some tag
    | _ => none
  | .attribute owner index => some owner.attributes[index].name

/-- The target of a processing instruction. -/
def instructionTarget? : Node → Option String
  | .inner place =>
    match place.label with
    | .instruction target _ => some target
    | _ => none
  | .attribute .. => none

/-- Whether the node is an element with this tag. -/
def hasTag (n : Node) (tag : String) : Bool :=
  n.isElement && n.tagName? == some tag

/-! ## Navigation -/

/-- The parent.  That of an attribute is its element. -/
def parent? : Node → Option Node
  | .inner place => place.parent?.map .inner
  | .attribute owner _ => some (.inner owner)

/-- The next sibling, texts and comments counted. -/
def nextSibling? : Node → Option Node
  | .inner place => place.next?.map .inner
  | .attribute .. => none

/-- The previous sibling, texts and comments counted. -/
def previousSibling? : Node → Option Node
  | .inner place => place.previous?.map .inner
  | .attribute .. => none

/-- The first child. -/
def firstChild? : Node → Option Node
  | .inner place => place.firstChild?.map .inner
  | .attribute .. => none

/-- The last child. -/
def lastChild? : Node → Option Node
  | .inner place => place.lastChild?.map .inner
  | .attribute .. => none

/-- The children, in order. -/
def children : Node → List Node
  | .inner place => place.children.map .inner
  | .attribute .. => []

/-- The number of children. -/
def childCount (n : Node) : Nat :=
  n.children.length

/-- The child at an index, counted from zero. -/
def child? (n : Node) (index : Nat) : Option Node :=
  n.children[index]?

/-- The children that are elements. -/
def elementChildren (n : Node) : List Node :=
  n.children.filter isElement

/-- Everything below the node, in document order.  Attributes are not among it. -/
def descendants : Node → List Node
  | .inner place => place.descendants.map .inner
  | .attribute .. => []

/-- The siblings after the node, the nearest first. -/
def followingSiblings : Node → List Node
  | .inner place => place.followingSiblings.map .inner
  | .attribute .. => []

/-- The siblings before the node, the nearest first. -/
def precedingSiblings : Node → List Node
  | .inner place => place.precedingSiblings.map .inner
  | .attribute .. => []

/-- The ancestors, the nearest first, up to the top of the tree. -/
def ancestors : Node → List Node
  | .inner place => place.ancestors.map .inner
  | .attribute owner _ => .inner owner :: owner.ancestors.map .inner

/-- The node at the top of the tree. -/
def document (n : Node) : Node :=
  .inner n.place.top

/-- The nodes after this one that are not below it.  What lies below the element of an attribute
comes after the attribute and is not below it. -/
def following : Node → List Node
  | .inner place => place.following.map .inner
  | .attribute owner _ => (owner.descendants ++ owner.following).map .inner

/-- The nodes before this one that are not above it, the nearest first. -/
def preceding (n : Node) : List Node :=
  n.place.preceding.map .inner

/-! ## Attributes -/

/-- The attributes of an element as nodes, in source order. -/
def attributeNodes : Node → List Node
  | .inner place => (List.finRange place.attributes.length).map (.attribute place)
  | .attribute .. => []

/-- The attributes of an element as names and values, in source order. -/
def attributeList : Node → List Attribute
  | .inner place => place.attributes
  | .attribute .. => []

/-- The value of the first attribute of this name. -/
def attribute? (n : Node) (name : String) : Option String :=
  (n.attributeList.find? (·.name == name)).map (·.value)

/-- Whether an element carries an attribute of this name. -/
def hasAttribute (n : Node) (name : String) : Bool :=
  n.attributeList.any (·.name == name)

/-- Puts an attribute into a list that ascends by name, in place of one of the same name. -/
def insertByName (a : Attribute) : List Attribute → List Attribute
  | [] => [a]
  | b :: bs =>
    if a.name < b.name then a :: b :: bs
    else if a.name == b.name then a :: bs
    else b :: insertByName a bs

/-- The attributes in ascending order of their names.  Where a name repeats the last counts. -/
def attributeMap (n : Node) : List Attribute :=
  n.attributeList.foldl (fun sorted a => insertByName a sorted) []

/-! ## Values -/

/-- The direct text value: the content of a text, the value of an attribute, and the content of the
only child of an element if that is a text. -/
def rawValue? : Node → Option String
  | .inner place =>
    match place.focus with
    | .node (.text _) _ => some place.focus.text
    | .node (.element ..) [child] => if child.isText then some child.text else none
    | _ => none
  | .attribute owner index => some owner.attributes[index].value

/-- The direct text value without the blanks at both ends. -/
def value? (n : Node) : Option String :=
  n.rawValue?.map Text.trim

/-- The direct text value with blanks collapsed. -/
def collapsedValue? (n : Node) : Option String :=
  n.rawValue?.map Text.collapse

/-- The text of the whole subtree.  A comment gives its content, an attribute its value. -/
def rawText : Node → String
  | .inner place =>
    match place.label with
    | .comment content => content
    | _ => place.focus.text
  | .attribute owner index => owner.attributes[index].value

/-- The text of the subtree without the blanks at both ends. -/
def text (n : Node) : String :=
  Text.trim n.rawText

/-- The text of the subtree with blanks collapsed. -/
def collapsedText (n : Node) : String :=
  Text.collapse n.rawText

/-- The trimmed text of each child that has any. -/
def textOfChildren (n : Node) : List String :=
  (n.children.map text).filter (! ·.isEmpty)

/-- The trimmed content of each text below the node, or of the node itself if it is a text, blank
ones left out. -/
def textOfDescendants (n : Node) : List String :=
  ((if n.isText then [n] else n.descendants.filter isText).map text).filter (! ·.isEmpty)

/-- The node at the end of a path from the top of the tree, or one of its attributes. -/
def at? (top : Place) (path : List Nat) : Option Nat → Option Node
  | none => (top.descend? path).map .inner
  | some index => (top.descend? path).bind fun p => (Node.inner p).attributeNodes[index]?

end Node

end HtmlQuery
