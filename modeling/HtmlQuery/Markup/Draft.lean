import HtmlQuery.Tree.Basic

/-!
# Drafts of trees

While markup is read, elements move: a tag may end an element in the middle of the tree, and content
that is out of place goes before the table that it stands in.  A `Draft` is a tree in the making.
Its nodes have numbers, in the order in which they were made, and each knows its parent and its
children.  A node without a parent is not in the tree.  The top is number 0.

The content of a template is a draft of its own, under a node that is not in the tree.

`Draft.tree` is the tree below the top.
-/

namespace HtmlQuery.Markup

/-- A node of a draft. -/
structure DraftNode where
  /-- What the node is. -/
  label : Label
  /-- The number of its parent. -/
  parent : Option Nat := none
  /-- The numbers of its children. -/
  children : Array Nat := #[]
  /-- The number of the node that holds its content, if that is not the node itself. -/
  content : Option Nat := none

/-- A tree in the making. -/
structure Draft where
  /-- The nodes, by their numbers. -/
  nodes : Array DraftNode

/-- Where a new node goes. -/
inductive Spot where
  /-- After the children of a node. -/
  | under (parent : Nat)
  /-- Before a node that has a parent. -/
  | before (sibling : Nat)
deriving DecidableEq, Repr

namespace Draft

/-- Nothing but a top. -/
def ofTop (top : Label) : Draft :=
  ⟨#[{ label := top }]⟩

/-- The number of the next node. -/
def size (d : Draft) : Nat :=
  d.nodes.size

/-- The parent of a node. -/
def parent? (d : Draft) (n : Nat) : Option Nat :=
  d.nodes[n]?.bind (·.parent)

/-- The children of a node. -/
def children (d : Draft) (n : Nat) : Array Nat :=
  (d.nodes[n]?.map (·.children)).getD #[]

/-- The attributes of a node. -/
def attributes (d : Draft) (n : Nat) : List Attribute :=
  (d.nodes[n]?.map (·.label.attributes)).getD []

/-- The node that holds the content of a node. -/
def holder (d : Draft) (n : Nat) : Nat :=
  (d.nodes[n]?.bind (·.content)).getD n

/-- Changes a node. -/
def change (d : Draft) (n : Nat) (f : DraftNode → DraftNode) : Draft :=
  ⟨d.nodes.modify n f⟩

/-! ## Making and moving nodes -/

/-- Makes a node, which is not in the tree yet. -/
def make (d : Draft) (label : Label) : Draft :=
  ⟨d.nodes.push { label := label }⟩

/-- Makes a template, whose content is under a node that is not in the tree. -/
def makeTemplate (d : Draft) (label : Label) : Draft :=
  ⟨(d.nodes.push { label := label, content := some (d.size + 1) }).push { label := .fragment }⟩

/-- Takes a node out of the tree, with all that is below it. -/
def detach (d : Draft) (n : Nat) : Draft :=
  match d.parent? n with
  | none => d
  | some p =>
    (d.change p fun node => { node with children := node.children.filter (· != n) }).change n
      fun node => { node with parent := none }

/-- The children with a number before another one. -/
def insertBefore (children : Array Nat) (sibling n : Nat) : Array Nat :=
  children.flatMap fun child => if child == sibling then #[n, child] else #[child]

/-- Puts a node that is not in the tree there. -/
def place (d : Draft) (spot : Spot) (n : Nat) : Draft :=
  match spot with
  | .under p =>
    (d.change p fun node => { node with children := node.children.push n }).change n
      fun node => { node with parent := some p }
  | .before sibling =>
    match d.parent? sibling with
    | none => d
    | some p =>
      (d.change p fun node =>
        { node with children := insertBefore node.children sibling n }).change n
          fun node => { node with parent := some p }

/-- Moves a node. -/
def move (d : Draft) (spot : Spot) (n : Nat) : Draft :=
  (d.detach n).place spot n

/-- Moves the children of a node to the end of another one. -/
def moveChildren (d : Draft) (source target : Nat) : Draft :=
  (d.children source).foldl (fun d n => d.move (.under target) n) d

/-- Makes a node and puts it there. -/
def add (d : Draft) (spot : Spot) (label : Label) : Draft :=
  (d.make label).place spot d.size

/-! ## Texts and attributes -/

/-- The node before a spot. -/
def neighbour? (d : Draft) : Spot → Option Nat
  | .under p => (d.children p).back?
  | .before sibling => do
    let siblings := d.children (← d.parent? sibling)
    siblings[(← siblings.idxOf? sibling) - 1]?.filter (· != sibling)

/-- Whether a node is a text. -/
def isText (d : Draft) (n : Nat) : Bool :=
  match d.nodes[n]? with
  | some ⟨.text _, _, _, _⟩ => true
  | _ => false

/-- A label with a character more, if it is a text. -/
def extendText (c : Char) : Label → Label
  | .text content => .text (content.push c)
  | label => label

/-- Puts a character there, at the end of the text before it if there is one. -/
def write (d : Draft) (spot : Spot) (c : Char) : Draft :=
  match (d.neighbour? spot).filter d.isText with
  | some n => d.change n fun node => { node with label := extendText c node.label }
  | none => d.add spot (.text (String.singleton c))

/-- Attributes with those of a second list whose names are new. -/
def mergeAttributes (attributes more : List Attribute) : List Attribute :=
  attributes ++ more.filter fun a => !(attributes.any (·.name == a.name))

/-- Gives attributes to an element, unless it has some of the same name. -/
def addAttributes (d : Draft) (n : Nat) (more : List Attribute) : Draft :=
  d.change n fun node =>
    match node.label with
    | .element vocabulary tag attributes =>
      { node with label := .element vocabulary tag (mergeAttributes attributes more) }
    | _ => node

/-! ## The tree -/

/-- The tree at a node, down to a depth. -/
def treeAt? (d : Draft) : Nat → Nat → Option Tree
  | 0, _ => none
  | depth + 1, n => do
    let node ← d.nodes[n]?
    return .node node.label (node.children.toList.filterMap (d.treeAt? depth))

/-- The tree below the top.  No node is deeper than there are nodes. -/
def tree (d : Draft) : Tree :=
  (d.treeAt? d.size 0).getD (.node .fragment [])

end Draft

end HtmlQuery.Markup
