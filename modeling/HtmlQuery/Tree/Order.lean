import HtmlQuery.Tree.Node

/-!
# Document order

The order of the nodes of a tree is given twice.  `Node.compare?` compares the addresses of two
nodes: the paths from the top, step by step, and where one path ends first its node comes first.
An element comes before its attributes and these before its children.  `Node.rank` counts the nodes
that come before a node, attributes included, from what surrounds it.

`sortedByRank` puts nodes of one tree in document order and keeps one of each.  `distinct` does so
for nodes of several trees.
-/

namespace HtmlQuery

/-- Where a node is in its tree. -/
structure Address where
  /-- The position of each node among its siblings, from the top down. -/
  path : List Nat
  /-- The position of an attribute among those of its element. -/
  attributeIndex : Option Nat
deriving DecidableEq, Repr

namespace Address

/-- The order of positions among the attributes of one element.  The element itself is first. -/
def compareAttribute : Option Nat → Option Nat → Ordering
  | none, none => .eq
  | none, some _ => .lt
  | some _, none => .gt
  | some i, some j => compare i j

/-- The order of two addresses whose paths still to compare are given. -/
def compareFrom (a b : Option Nat) : List Nat → List Nat → Ordering
  | [], [] => compareAttribute a b
  | [], _ :: _ => .lt
  | _ :: _, [] => .gt
  | i :: is, j :: js => (compare i j).then (compareFrom a b is js)

/-- The order of two addresses of one tree. -/
def order (a b : Address) : Ordering :=
  compareFrom a.attributeIndex b.attributeIndex a.path b.path

end Address

namespace Node

/-- Where the node is in its tree. -/
def address (n : Node) : Address :=
  ⟨n.place.path, n.attributeIndex?⟩

/-- Whether two handles are of one node of one tree. -/
def same (a b : Node) : Bool :=
  a.tree == b.tree && a.address == b.address

/-- The document order of two nodes, if they belong to one tree. -/
def compare? (a b : Node) : Option Ordering :=
  if a.tree = b.tree then some (a.address.order b.address) else none

/-- The number of nodes of the tree that come before the node. -/
def rank : Node → Nat
  | .inner place => place.rank
  | .attribute owner index => owner.rank + 1 + index

/-- All nodes of a tree in document order, the attributes of an element right after it. -/
def all (top : Place) : List Node :=
  top.withDescendants.flatMap fun p => .inner p :: (Node.inner p).attributeNodes

end Node

/-- Keeps the first of every run of neighbours with the same key. -/
def dedupByKey {κ α : Type} [BEq κ] : List (κ × α) → List (κ × α)
  | [] => []
  | [a] => [a]
  | a :: b :: rest => if a.1 == b.1 then dedupByKey (a :: rest) else a :: dedupByKey (b :: rest)
termination_by xs => xs.length

/-- Nodes of one tree in document order, each of them once. -/
def sortedByRank (nodes : List Node) : List Node :=
  (dedupByKey ((nodes.map fun n => (n.rank, n)).mergeSort fun a b => a.1 ≤ b.1)).map (·.2)

/-- Nodes sorted by document order, those that are equal or of different trees in the order
given. -/
def sortedByOrder (nodes : List Node) : List Node :=
  nodes.mergeSort fun a b => a.compare? b != some .gt

/-- Nodes tree by tree, those of one tree in document order, each of them once. -/
def distinct (nodes : List Node) : List Node :=
  (dedupByKey ((nodes.map fun n => ((n.tree.number, n.rank), n)).mergeSort fun a b =>
    a.1.1 < b.1.1 || a.1.1 == b.1.1 && a.1.2 ≤ b.1.2)).map (·.2)

end HtmlQuery
