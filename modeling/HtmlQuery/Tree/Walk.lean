import HtmlQuery.Tree.Node

/-!
# Walks

A walk visits nodes one at a time by following links, and knows only where it is.  There are three
kinds: along one link until it ends, along the next siblings that are elements, and through
everything below a node.

The last goes to the first child if there is one, else to the next sibling, else up until there is
a next sibling.  It counts how far below its origin it is, and ends where the count runs out, so it
never leaves the subtree.

Every step leaves less to visit (`Walk.remaining`), so `Walk.toList` runs a walk to its end.
-/

namespace HtmlQuery

/-- A way from a node to another. -/
inductive Link where
  /-- To the next sibling. -/
  | next
  /-- To the previous sibling. -/
  | previous
  /-- To the parent. -/
  | parent
deriving DecidableEq, Repr

/-- The place that a link leads to. -/
def Link.follow? : Link → Place → Option Place
  | .next, p => p.next?
  | .previous, p => p.previous?
  | .parent, p => p.parent?

/-- A walk that has not ended knows the place it visits next. -/
inductive Walk where
  /-- A walk that has ended. -/
  | ended
  /-- Along one link. -/
  | along (link : Link) (current : Place)
  /-- Along the next siblings, visiting elements only. -/
  | elements (current : Place)
  /-- Through a subtree.  `depth` is how far below the origin the current place is, less one. -/
  | below (depth : Nat) (current : Place)

/-- The next place outside a subtree but below an origin `depth + 1` levels up, and its depth. -/
def Place.climb? : (depth : Nat) → Place → Option (Nat × Place)
  | depth, p =>
    match p.next? with
    | some q => some (depth, q)
    | none =>
      match depth with
      | 0 => none
      | depth + 1 => p.parent?.bind (Place.climb? depth)

/-- What holds of a place with the next sibling that climbing finds, and of every place without one
if it holds of its parent, holds where climbing begins. -/
theorem Place.climb?_induction {motive : Nat → Place → Prop} {depth d : Nat} {p q : Place}
    (h : p.climb? depth = some (d, q)) (next : ∀ {p : Place}, p.next? = some q → motive d p)
    (up : ∀ {depth : Nat} {p r : Place}, p.next? = none → p.parent? = some r → motive depth r →
      motive (depth + 1) p) : motive depth p := by
  induction depth generalizing p with
  | zero =>
    unfold Place.climb? at h
    split at h
    next hn =>
      obtain ⟨rfl, rfl⟩ := Prod.mk.inj (Option.some.inj h)
      exact next hn
    next => simp at h
  | succ depth ih =>
    unfold Place.climb? at h
    split at h
    next hn =>
      obtain ⟨rfl, rfl⟩ := Prod.mk.inj (Option.some.inj h)
      exact next hn
    next hn =>
      obtain ⟨r, hr, h⟩ := Option.bind_eq_some_iff.mp h
      exact up hn hr (ih h)

/-- The place after this one below an origin `depth + 1` levels up, and its depth. -/
def Place.successor? (depth : Nat) (p : Place) : Option (Nat × Place) :=
  match p.firstChild? with
  | some q => some (depth + 1, q)
  | none => p.climb? depth

/-- The first element among a place and the siblings after it. -/
def Place.elementHere? (p : Place) : Option Place :=
  if p.focus.isElement then some p else p.nextWhere? Tree.isElement

namespace Walk

/-- A walk along a link. -/
def ofLink (link : Link) : Option Place → Walk
  | some p => .along link p
  | none => .ended

/-- A walk along the next siblings that are elements. -/
def ofElements : Option Place → Walk
  | some p => .elements p
  | none => .ended

/-- A walk through a subtree. -/
def ofBelow : Option (Nat × Place) → Walk
  | some (depth, p) => .below depth p
  | none => .ended

/-- The node that a walk visits next, and the walk after it. -/
def next? : Walk → Option (Node × Walk)
  | .ended => none
  | .along link p => some (.inner p, ofLink link (link.follow? p))
  | .elements p => p.elementHere?.map fun q => (.inner q, ofElements q.next?)
  | .below depth p => some (.inner p, ofBelow (p.successor? depth))

/-! ## Walks end -/

/-- The number of nodes after a subtree in the subtrees of its innermost levels. -/
def sizeAfter : (levels : Nat) → List Level → Nat
  | 0, _ => 0
  | _, [] => 0
  | n + 1, level :: above => sizeOfForest level.after + sizeAfter n above

/-- A bound on the number of nodes that a walk has still to visit. -/
def remaining : Walk → Nat
  | .ended => 0
  | .along .next p => 1 + p.countAfter
  | .along .previous p => 1 + p.countBefore
  | .along .parent p => 1 + p.depth
  | .elements p => 1 + p.countAfter
  | .below depth p => p.focus.size + sizeAfter (depth + 1) p.above

theorem one_le_size (t : Tree) : 1 ≤ t.size := by
  cases t with
  | node label children => simp [Tree.size]

theorem size_next? {levels : Nat} {p q : Place} (h : p.next? = some q) :
    q.focus.size + sizeAfter (levels + 1) q.above = sizeAfter (levels + 1) p.above := by
  obtain ⟨id, t, above, fits⟩ := p
  rcases above with _ | ⟨⟨parent, passed, _ | ⟨s, after⟩⟩, above⟩
  · simp [Place.next?] at h
  · simp [Place.next?] at h
  · obtain rfl := Option.some.inj h
    simp only [sizeAfter, sizeOfForest]
    omega

theorem size_parent? {levels : Nat} {p q : Place} (last : p.next? = none)
    (h : p.parent? = some q) : sizeAfter levels q.above = sizeAfter (levels + 1) p.above := by
  obtain ⟨id, t, above, fits⟩ := p
  rcases above with _ | ⟨⟨parent, passed, _ | ⟨s, after⟩⟩, above⟩
  · simp [Place.parent?] at h
  · obtain rfl := Option.some.inj h
    simp [sizeAfter, sizeOfForest]
  · simp [Place.next?] at last

/-- Climbing skips what has been visited and nothing else. -/
theorem size_climb? {depth d : Nat} {p q : Place} (h : p.climb? depth = some (d, q)) :
    q.focus.size + sizeAfter (d + 1) q.above = sizeAfter (depth + 1) p.above := by
  refine Place.climb?_induction
    (motive := fun depth p => q.focus.size + sizeAfter (d + 1) q.above =
      sizeAfter (depth + 1) p.above) h ?next ?up
  case next =>
    intro p hn
    exact size_next? hn
  case up =>
    intro depth p r hn hr ih
    exact ih.trans (size_parent? hn hr)

/-- A step through a subtree leaves less of it. -/
theorem remaining_below {depth d : Nat} {p q : Place} (h : p.successor? depth = some (d, q)) :
    (Walk.below d q).remaining < (Walk.below depth p).remaining := by
  obtain ⟨id, ⟨label, children⟩, above, fits⟩ := p
  have size := one_le_size (.node label children)
  match children with
  | [] =>
    simp only [Place.successor?, Place.firstChild?] at h
    have := size_climb? h
    simp only [remaining] at this ⊢
    omega
  | t :: after =>
    simp only [Place.successor?, Place.firstChild?, Option.some.injEq, Prod.mk.injEq] at h
    obtain ⟨rfl, rfl⟩ := h
    simp only [remaining, sizeAfter, Tree.size, sizeOfForest]
    omega

theorem countAfter_elementHere? {p q : Place} (h : p.elementHere? = some q) :
    q.countAfter ≤ p.countAfter := by
  unfold Place.elementHere? at h
  split at h
  · exact Nat.le_of_eq (Option.some.inj h ▸ rfl)
  · exact Nat.le_of_lt (Place.countAfter_nextWhere? h)

theorem remaining_ofElements {p : Place} :
    (ofElements p.next?).remaining < 1 + p.countAfter := by
  match h : p.next? with
  | none =>
    simp only [ofElements, remaining]
    omega
  | some q =>
    have := Place.countAfter_next? h
    simp only [ofElements, remaining]
    omega

/-- A step along a link leaves less of the way. -/
theorem remaining_ofLink {link : Link} {p : Place} :
    (ofLink link (link.follow? p)).remaining < (Walk.along link p).remaining := by
  match h : link.follow? p with
  | none =>
    cases link <;> simp only [ofLink, remaining] <;> omega
  | some q =>
    cases link with
    | next =>
      have := Place.countAfter_next? h
      simp only [ofLink, remaining]
      omega
    | previous =>
      have := Place.countBefore_previous? h
      simp only [ofLink, remaining]
      omega
    | parent =>
      have := Place.depth_parent? h
      simp only [ofLink, remaining]
      omega

theorem remaining_next? {w v : Walk} {n : Node} (h : w.next? = some (n, v)) :
    v.remaining < w.remaining := by
  match w with
  | .ended => simp [next?] at h
  | .along link p =>
    simp only [next?, Option.some.injEq, Prod.mk.injEq] at h
    obtain ⟨_, rfl⟩ := h
    exact remaining_ofLink
  | .elements p =>
    simp only [next?, Option.map_eq_some_iff, Prod.mk.injEq] at h
    obtain ⟨q, hq, _, rfl⟩ := h
    calc (ofElements q.next?).remaining
        < 1 + q.countAfter := remaining_ofElements
      _ ≤ 1 + p.countAfter := Nat.add_le_add_left (countAfter_elementHere? hq) 1
  | .below depth p =>
    simp only [next?, Option.some.injEq, Prod.mk.injEq] at h
    obtain ⟨_, rfl⟩ := h
    match hs : p.successor? depth with
    | none =>
      have := one_le_size p.focus
      simp only [ofBelow, remaining]
      omega
    | some (d, q) => exact remaining_below hs

/-- All nodes that a walk visits, in order. -/
def toList (w : Walk) : List Node :=
  match h : w.next? with
  | none => []
  | some (n, v) =>
    have := remaining_next? h
    n :: toList v
termination_by w.remaining

end Walk

namespace Node

/-- A walk along the children. -/
def childWalk : Node → Walk
  | .inner p => .ofLink .next p.firstChild?
  | .attribute .. => .ended

/-- A walk along the children that are elements. -/
def elementChildWalk : Node → Walk
  | .inner p => .ofElements p.firstChild?
  | .attribute .. => .ended

/-- A walk through everything below the node. -/
def descendantWalk : Node → Walk
  | .inner p => .ofBelow (p.firstChild?.map (0, ·))
  | .attribute .. => .ended

/-- A walk along the siblings after the node. -/
def followingSiblingWalk : Node → Walk
  | .inner p => .ofLink .next p.next?
  | .attribute .. => .ended

/-- A walk along the siblings before the node, the nearest first. -/
def precedingSiblingWalk : Node → Walk
  | .inner p => .ofLink .previous p.previous?
  | .attribute .. => .ended

/-- A walk along the ancestors, the nearest first. -/
def ancestorWalk : Node → Walk
  | .inner p => .ofLink .parent p.parent?
  | .attribute owner _ => .ofLink .parent (some owner)

end Node

end HtmlQuery
