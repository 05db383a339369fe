import HtmlQuery.Tree.Basic

/-!
# Places in a tree

A `Place` is a subtree together with everything around it: for each level above, the parent and the
siblings on both sides.  Moving to a parent, a child or a sibling only shifts what lies where.

A level also keeps two counts, the siblings before the subtree and the nodes of the whole tree
before it, so that a place knows its path and its rank without counting again.  `Fits` says that
the levels are those of the subtree and that the counts are right.  Every place carries that fact,
so the counts never tell two places apart.

`TreeId` tells trees apart.  Two trees with the same content that were built separately have no
place in common.

`Place.withDescendants` lists a place and everything below it in the order in which a reader meets
them.
-/

namespace HtmlQuery

/-- The identity of a tree. -/
structure TreeId where
  /-- The number of the tree. -/
  number : Nat
deriving DecidableEq, Repr

/-! ## Levels -/

/-- What has been passed among the children of a node. -/
structure Passed where
  /-- The children passed, the nearest first. -/
  siblings : List Tree
  /-- How many these are. -/
  index : Nat
  /-- How many nodes of the whole tree have been passed, attributes counted as nodes. -/
  rank : Nat

/-- What surrounds a subtree below its parent. -/
structure Level where
  /-- The parent. -/
  parent : Tree
  /-- The siblings before it. -/
  passed : Passed
  /-- The siblings after it, the nearest first. -/
  after : List Tree

/-- How many nodes come before a subtree with these levels above, attributes counted as nodes. -/
def rankOf : List Level → Nat
  | [] => 0
  | level :: _ => level.passed.rank

namespace Passed

/-- Before the first child: the parent and its attributes have been passed. -/
def start (parent : Tree) (above : List Level) : Passed :=
  ⟨[], 0, rankOf above + 1 + parent.attributes.length⟩

/-- One child further. -/
def push (passed : Passed) (t : Tree) : Passed :=
  ⟨t :: passed.siblings, passed.index + 1, passed.rank + t.weight⟩

end Passed

/-- The children of a parent are those passed and those still to come, and the counts are right. -/
structure Splits (above : List Level) (parent : Tree) (passed : Passed) (rest : List Tree) :
    Prop where
  /-- Nothing is lost between the two parts. -/
  children : parent.children = passed.siblings.reverseAux rest
  /-- The number of children passed. -/
  index : passed.index = passed.siblings.length
  /-- The number of nodes passed. -/
  rank : passed.rank =
    rankOf above + 1 + parent.attributes.length + weightOfForest passed.siblings

namespace Splits

theorem start (parent : Tree) (above : List Level) :
    Splits above parent (.start parent above) parent.children :=
  ⟨rfl, rfl, rfl⟩

/-- The next child can be passed. -/
theorem push {above : List Level} {parent t : Tree} {passed : Passed} {after : List Tree}
    (h : Splits above parent passed (t :: after)) :
    Splits above parent (passed.push t) after :=
  ⟨h.children, congrArg (· + 1) h.index, by
    simp only [Passed.push, weightOfForest, h.rank]
    omega⟩

/-- The child passed last can be taken back. -/
theorem pop {above : List Level} {parent s : Tree} {before rest : List Tree} {index rank : Nat}
    (h : Splits above parent ⟨s :: before, index, rank⟩ rest) :
    Splits above parent ⟨before, index - 1, rank - s.weight⟩ (s :: rest) :=
  ⟨h.children, by have := h.index; simp only [List.length_cons] at this ⊢; omega, by
    have := h.rank
    simp only [weightOfForest] at this ⊢
    omega⟩

end Splits

/-- The levels are those above a subtree, the innermost first. -/
def Fits : Tree → List Level → Prop
  | _, [] => True
  | t, level :: above =>
    Splits above level.parent level.passed (t :: level.after) ∧ Fits level.parent above

namespace Fits

theorem top (t : Tree) : Fits t [] :=
  trivial

/-- Levels that fit a parent fit its child with one more level. -/
theorem below {t : Tree} {level : Level} {above : List Level} (fits : Fits level.parent above)
    (h : Splits above level.parent level.passed (t :: level.after)) : Fits t (level :: above) :=
  ⟨h, fits⟩

theorem parent {t : Tree} {level : Level} {above : List Level} (fits : Fits t (level :: above)) :
    Fits level.parent above :=
  fits.2

theorem splits {t : Tree} {level : Level} {above : List Level} (fits : Fits t (level :: above)) :
    Splits above level.parent level.passed (t :: level.after) :=
  fits.1

/-- The first child has no siblings before it. -/
theorem first {label : Label} {t : Tree} {after : List Tree} {above : List Level}
    (fits : Fits (.node label (t :: after)) above) :
    Fits t
      (⟨.node label (t :: after), .start (.node label (t :: after)) above, after⟩ :: above) :=
  fits.below (.start (.node label (t :: after)) above)

/-- The next sibling has one more sibling before it, and its counts are one subtree further on. -/
theorem next {parent t s : Tree} {passed : Passed} {after : List Tree} {above : List Level}
    (fits : Fits parent above) (h : Splits above parent passed (t :: s :: after)) :
    Fits s (⟨parent, passed.push t, after⟩ :: above) :=
  fits.below h.push

theorem previous {parent s : Tree} {before rest : List Tree} {index rank : Nat}
    {above : List Level} (fits : Fits parent above)
    (h : Splits above parent ⟨s :: before, index, rank⟩ rest) :
    Fits s (⟨parent, ⟨before, index - 1, rank - s.weight⟩, rest⟩ :: above) :=
  fits.below h.pop

end Fits

/-! ## Places -/

/-- A subtree and everything around it. -/
structure Place where
  /-- The tree that the place belongs to. -/
  tree : TreeId
  /-- The subtree at the place. -/
  focus : Tree
  /-- The levels above, the innermost first. -/
  above : List Level
  /-- The levels are those of the subtree. -/
  fits : Fits focus above

namespace Place

/-- The place of a whole tree. -/
def ofTree (id : TreeId) (t : Tree) : Place :=
  ⟨id, t, [], .top t⟩

/-- The label at a place. -/
def label (p : Place) : Label :=
  p.focus.label

/-- The attributes at a place. -/
def attributes (p : Place) : List Attribute :=
  p.focus.attributes

/-- How many nodes of the tree come before a place, attributes counted as nodes. -/
def rank (p : Place) : Nat :=
  rankOf p.above

/-! ## Moves -/

/-- The parent. -/
def parent? : Place → Option Place
  | ⟨_, _, [], _⟩ => none
  | ⟨id, _, level :: above, fits⟩ => some ⟨id, level.parent, above, fits.parent⟩

/-- The next sibling. -/
def next? : Place → Option Place
  | ⟨id, t, ⟨parent, passed, s :: after⟩ :: above, fits⟩ =>
    some ⟨id, s, ⟨parent, passed.push t, after⟩ :: above, fits.parent.next fits.splits⟩
  | _ => none

/-- The previous sibling. -/
def previous? : Place → Option Place
  | ⟨id, t, ⟨parent, ⟨s :: before, index, rank⟩, after⟩ :: above, fits⟩ =>
    some ⟨id, s, ⟨parent, ⟨before, index - 1, rank - s.weight⟩, t :: after⟩ :: above,
      fits.parent.previous fits.splits⟩
  | _ => none

/-- The first child. -/
def firstChild? : Place → Option Place
  | ⟨_, .node _ [], _, _⟩ => none
  | ⟨id, .node label (t :: after), above, fits⟩ =>
    some ⟨id, t,
      ⟨.node label (t :: after), .start (.node label (t :: after)) above, after⟩ :: above,
      fits.first⟩

/-! ## Places around a place -/

/-- The places of the siblings after a subtree, the nearest first. -/
def siblingsAfter (id : TreeId) {parent : Tree} {above : List Level} (fits : Fits parent above) :
    (passed : Passed) → (t : Tree) → (after : List Tree) →
      Splits above parent passed (t :: after) → List Place
  | _, _, [], _ => []
  | passed, t, s :: after, h =>
    ⟨id, s, ⟨parent, passed.push t, after⟩ :: above, fits.next h⟩ ::
      siblingsAfter id fits (passed.push t) s after h.push

/-- The siblings after a place, the nearest first. -/
def followingSiblings : Place → List Place
  | ⟨_, _, [], _⟩ => []
  | ⟨id, t, level :: _, fits⟩ =>
    siblingsAfter id fits.parent level.passed t level.after fits.splits

/-- The nearest of the siblings after a subtree that passes a test. -/
def findAfter? (id : TreeId) (test : Tree → Bool) {parent : Tree} {above : List Level}
    (fits : Fits parent above) :
    (passed : Passed) → (t : Tree) → (after : List Tree) →
      Splits above parent passed (t :: after) → Option Place
  | _, _, [], _ => none
  | passed, t, s :: after, h =>
    if test s then some ⟨id, s, ⟨parent, passed.push t, after⟩ :: above, fits.next h⟩
    else findAfter? id test fits (passed.push t) s after h.push

/-- The nearest of the siblings after a place that passes a test. -/
def nextWhere? (test : Tree → Bool) : Place → Option Place
  | ⟨_, _, [], _⟩ => none
  | ⟨id, t, level :: _, fits⟩ =>
    findAfter? id test fits.parent level.passed t level.after fits.splits

/-- The places of the siblings before a subtree, the nearest first, given those from the subtree
on. -/
def siblingsBefore (id : TreeId) {parent : Tree} {above : List Level}
    (fits : Fits parent above) :
    (before : List Tree) → (index rank : Nat) → (rest : List Tree) →
      Splits above parent ⟨before, index, rank⟩ rest → List Place
  | [], _, _, _, _ => []
  | s :: before, index, rank, rest, h =>
    ⟨id, s, ⟨parent, ⟨before, index - 1, rank - s.weight⟩, rest⟩ :: above, fits.previous h⟩ ::
      siblingsBefore id fits before (index - 1) (rank - s.weight) (s :: rest) h.pop

/-- The siblings before a place, the nearest first. -/
def precedingSiblings : Place → List Place
  | ⟨_, _, [], _⟩ => []
  | ⟨id, t, level :: _, fits⟩ =>
    siblingsBefore id fits.parent level.passed.siblings level.passed.index level.passed.rank
      (t :: level.after) fits.splits

/-- The children, in order. -/
def children (p : Place) : List Place :=
  match p.firstChild? with
  | none => []
  | some q => q :: q.followingSiblings

/-- The last child. -/
def lastChild? (p : Place) : Option Place :=
  p.children.getLast?

/-- The places that the levels above a subtree belong to, the innermost first. -/
def ancestorsFrom (id : TreeId) : (t : Tree) → (above : List Level) → Fits t above → List Place
  | _, [], _ => []
  | _, level :: above, fits =>
    ⟨id, level.parent, above, fits.parent⟩ :: ancestorsFrom id level.parent above fits.parent

/-- The ancestors, the nearest first, up to the top of the tree. -/
def ancestors (p : Place) : List Place :=
  ancestorsFrom p.tree p.focus p.above p.fits

/-- The place of the whole tree that the levels above a subtree lead up to. -/
def topFrom (id : TreeId) : (t : Tree) → (above : List Level) → Fits t above → Place
  | t, [], fits => ⟨id, t, [], fits⟩
  | _, level :: above, fits => topFrom id level.parent above fits.parent

/-- The place of the whole tree. -/
def top (p : Place) : Place :=
  topFrom p.tree p.focus p.above p.fits

end Place

mutual

/-- The places of a subtree in the order of the document, and then some more. -/
def Tree.placesThen (id : TreeId) (more : List Place) :
    (t : Tree) → (above : List Level) → Fits t above → List Place
  | .node label [], above, fits => ⟨id, .node label [], above, fits⟩ :: more
  | .node label (t :: after), above, fits =>
    ⟨id, .node label (t :: after), above, fits⟩ ::
      t.placesThen id
        (placesAfterThen id more fits (.start (.node label (t :: after)) above) t after
          fits.first.splits)
        (⟨.node label (t :: after), .start (.node label (t :: after)) above, after⟩ :: above)
        fits.first

/-- The places of the subtrees after one among its siblings in the order of the document, and then
some more. -/
def placesAfterThen (id : TreeId) (more : List Place) {parent : Tree} {above : List Level}
    (fits : Fits parent above) :
    (passed : Passed) → (t : Tree) → (after : List Tree) →
      Splits above parent passed (t :: after) → List Place
  | _, _, [], _ => more
  | passed, t, s :: after, h =>
    s.placesThen id (placesAfterThen id more fits (passed.push t) s after h.push)
      (⟨parent, passed.push t, after⟩ :: above) (fits.next h)

end

namespace Place

/-- A place and everything below it, in the order of the document. -/
def withDescendants (p : Place) : List Place :=
  p.focus.placesThen p.tree [] p.above p.fits

/-- Everything below a place, in the order of the document. -/
def descendants (p : Place) : List Place :=
  p.withDescendants.tail

/-- Everything after the subtree at a place, in the order of the document. -/
def following (p : Place) : List Place :=
  (p :: p.ancestors).flatMap fun q => q.followingSiblings.flatMap withDescendants

/-- Everything before a place that is not above it, the nearest first. -/
def preceding (p : Place) : List Place :=
  (p :: p.ancestors).flatMap fun q => q.precedingSiblings.flatMap (·.withDescendants.reverse)

/-! ## Addresses -/

/-- How many siblings stand before a place at each level, the innermost level first. -/
def indexesUp (p : Place) : List Nat :=
  p.above.map (·.passed.index)

/-- The number of levels above a place. -/
def depth (p : Place) : Nat :=
  p.above.length

/-- The number of siblings before a place. -/
def countBefore (p : Place) : Nat :=
  (p.above.head?.map (·.passed.siblings.length)).getD 0

/-- The number of siblings after a place. -/
def countAfter (p : Place) : Nat :=
  (p.above.head?.map (·.after.length)).getD 0

/-- The path from the top to a place: the position of each node among its siblings. -/
def path (p : Place) : List Nat :=
  p.indexesUp.reverse

/-- The child at an index, counted from zero. -/
def child? (p : Place) (index : Nat) : Option Place :=
  p.children[index]?

/-- The place at the end of a path. -/
def descend? (p : Place) : List Nat → Option Place
  | [] => some p
  | index :: path => (p.child? index).bind (·.descend? path)

/-! ## Moves and counts -/

/-- The parent has one level less above it. -/
theorem depth_parent? {p q : Place} (h : p.parent? = some q) : q.depth + 1 = p.depth := by
  obtain ⟨id, t, above, fits⟩ := p
  cases above with
  | nil => simp [parent?] at h
  | cons level above =>
    obtain rfl := Option.some.inj h
    rfl

/-- The next sibling has one sibling less after it. -/
theorem countAfter_next? {p q : Place} (h : p.next? = some q) :
    q.countAfter + 1 = p.countAfter := by
  obtain ⟨id, t, above, fits⟩ := p
  match above with
  | [] => simp [next?] at h
  | ⟨_, _, []⟩ :: _ => simp [next?] at h
  | ⟨_, _, _ :: _⟩ :: _ =>
    obtain rfl := Option.some.inj h
    rfl

/-- The previous sibling has one sibling less before it. -/
theorem countBefore_previous? {p q : Place} (h : p.previous? = some q) :
    q.countBefore + 1 = p.countBefore := by
  obtain ⟨id, t, above, fits⟩ := p
  match above with
  | [] => simp [previous?] at h
  | ⟨_, ⟨[], _, _⟩, _⟩ :: _ => simp [previous?] at h
  | ⟨_, ⟨_ :: _, _, _⟩, _⟩ :: _ =>
    obtain rfl := Option.some.inj h
    rfl

/-- A search among the siblings after a subtree ends further on, wherever it ends. -/
theorem countAfter_findAfter? {id : TreeId} {test : Tree → Bool} {parent : Tree}
    {above : List Level} {fits : Fits parent above} {passed : Passed} {t : Tree}
    {after : List Tree} {h : Splits above parent passed (t :: after)} {q : Place}
    (found : findAfter? id test fits passed t after h = some q) :
    q.countAfter < after.length := by
  induction after generalizing passed t with
  | nil => simp [findAfter?] at found
  | cons u after ih =>
    unfold findAfter? at found
    split at found
    · obtain rfl := Option.some.inj found
      simp [countAfter]
    · have := ih found
      simp only [List.length_cons]
      omega

theorem countAfter_nextWhere? {test : Tree → Bool} {p q : Place}
    (h : p.nextWhere? test = some q) : q.countAfter < p.countAfter := by
  obtain ⟨id, t, above, fits⟩ := p
  cases above with
  | nil => simp [nextWhere?] at h
  | cons level above => exact countAfter_findAfter? h

end Place

end HtmlQuery
