import HtmlQuery.Proofs.Tree.Family
import HtmlQuery.Tree.Walk

/-!
# What the walks visit

A walk knows one place at a time and follows links.  Run to its end it visits what the lists around
its origin hold, in the same order: the children, the siblings on either side, the ancestors, and
the places of a subtree.

The walk through a subtree needs the invariant of `Walk.toList_below`.  A walk that stands at a place
`depth + 1` levels below its origin still has to visit the subtree there and what
`Place.restBelow` lists, the subtrees after it in the innermost `depth + 1` levels.
-/

namespace HtmlQuery

namespace Place

/-! ## Links and lists -/

/-- The siblings after a place are its next sibling and those after that. -/
theorem followingSiblings_of_next? {p q : Place} (h : p.next? = some q) :
    p.followingSiblings = q :: q.followingSiblings := by
  obtain ⟨id, t, _ | ⟨⟨parent, passed, _ | ⟨s, after⟩⟩, above⟩, fits⟩ := p
  · simp [next?] at h
  · simp [next?] at h
  · obtain rfl := Option.some.inj h
    rfl

theorem followingSiblings_of_next?_none {p : Place} (h : p.next? = none) :
    p.followingSiblings = [] := by
  obtain ⟨id, t, _ | ⟨⟨parent, passed, _ | ⟨s, after⟩⟩, above⟩, fits⟩ := p
  · rfl
  · rfl
  · simp [next?] at h

/-- The siblings before a place are its previous sibling and those before that. -/
theorem precedingSiblings_of_previous? {p q : Place} (h : p.previous? = some q) :
    p.precedingSiblings = q :: q.precedingSiblings := by
  obtain ⟨id, t, _ | ⟨⟨parent, ⟨_ | ⟨s, before⟩, index, rank⟩, after⟩, above⟩, fits⟩ := p
  · simp [previous?] at h
  · simp [previous?] at h
  · obtain rfl := Option.some.inj h
    rfl

theorem precedingSiblings_of_previous?_none {p : Place} (h : p.previous? = none) :
    p.precedingSiblings = [] := by
  obtain ⟨id, t, _ | ⟨⟨parent, ⟨_ | ⟨s, before⟩, index, rank⟩, after⟩, above⟩, fits⟩ := p
  · rfl
  · rfl
  · simp [previous?] at h

/-- The children of a place are its first child and the siblings after that. -/
theorem children_of_firstChild? {p c : Place} (h : p.firstChild? = some c) :
    p.children = c :: c.followingSiblings := by
  simp [children, h]

theorem children_of_firstChild?_none {p : Place} (h : p.firstChild? = none) : p.children = [] := by
  simp [children, h]

theorem parent?_of_next? {p q : Place} (h : p.next? = some q) : q.parent? = p.parent? := by
  have hmem : q ∈ p.followingSiblings := by
    rw [followingSiblings_of_next? h]
    exact List.mem_cons_self
  obtain ⟨r, hp, hq⟩ := parent_of_mem_followingSiblings hmem
  rw [hp, hq]

/-- What lies after the subtree at a place in its innermost `depth + 1` levels. -/
def restBelow : (depth : Nat) → Place → List Place
  | 0, p => p.followingSiblings.flatMap withDescendants
  | depth + 1, p =>
    p.followingSiblings.flatMap withDescendants ++
      match p.parent? with
      | none => []
      | some q => restBelow depth q

theorem restBelow_of_next? {depth : Nat} {p q : Place} (h : p.next? = some q) :
    p.restBelow depth = q.withDescendants ++ q.restBelow depth := by
  cases depth with
  | zero => rw [restBelow, restBelow, followingSiblings_of_next? h, List.flatMap_cons]
  | succ depth =>
    rw [restBelow, restBelow, followingSiblings_of_next? h, List.flatMap_cons, parent?_of_next? h,
      List.append_assoc]

theorem restBelow_zero_of_next?_none {p : Place} (h : p.next? = none) : p.restBelow 0 = [] := by
  rw [restBelow, followingSiblings_of_next?_none h, List.flatMap_nil]

theorem restBelow_succ_of_next?_none {depth : Nat} {p : Place} (h : p.next? = none) :
    p.restBelow (depth + 1) =
      match p.parent? with
      | none => []
      | some q => q.restBelow depth := by
  rw [restBelow, followingSiblings_of_next?_none h, List.flatMap_nil, List.nil_append]

/-- Climbing finds the first place of the rest. -/
theorem restBelow_of_climb? {depth d : Nat} {p q : Place} (h : p.climb? depth = some (d, q)) :
    p.restBelow depth = q.withDescendants ++ q.restBelow d := by
  refine climb?_induction
    (motive := fun depth p => p.restBelow depth = q.withDescendants ++ q.restBelow d) h ?next ?up
  case next =>
    intro p hn
    exact restBelow_of_next? hn
  case up =>
    intro depth p r hn hr ih
    rw [restBelow_succ_of_next?_none hn, hr]
    exact ih

/-- Climbing fails where there is no rest. -/
theorem restBelow_of_climb?_none {depth : Nat} {p : Place} (h : p.climb? depth = none) :
    p.restBelow depth = [] := by
  induction depth generalizing p with
  | zero =>
    unfold climb? at h
    split at h
    next => simp at h
    next hn => exact restBelow_zero_of_next?_none hn
  | succ depth ih =>
    unfold climb? at h
    split at h
    next => simp at h
    next hn =>
      rw [restBelow_succ_of_next?_none hn]
      cases hp : p.parent? with
      | none => rfl
      | some q => exact ih (by simpa only [hp, Option.bind_some] using h)

/-- The place that a walk visits next heads what it has still to visit. -/
theorem restBelow_of_successor? {depth d : Nat} {p q : Place}
    (h : p.successor? depth = some (d, q)) :
    p.withDescendants ++ p.restBelow depth = p :: (q.withDescendants ++ q.restBelow d) := by
  rw [withDescendants_eq p]
  unfold successor? at h
  split at h
  next c hc =>
    obtain ⟨rfl, rfl⟩ := Prod.mk.inj (Option.some.inj h)
    have hkids := children_of_firstChild? hc
    have hparent : c.parent? = some p := mem_children.mp (hkids ▸ List.mem_cons_self)
    rw [hkids, List.flatMap_cons, restBelow, hparent]
    simp
  next hc =>
    rw [children_of_firstChild?_none hc, restBelow_of_climb? h]
    rfl

theorem restBelow_of_successor?_none {depth : Nat} {p : Place} (h : p.successor? depth = none) :
    p.withDescendants ++ p.restBelow depth = [p] := by
  rw [withDescendants_eq p]
  unfold successor? at h
  split at h
  next => simp at h
  next hc =>
    rw [children_of_firstChild?_none hc, restBelow_of_climb?_none h]
    rfl

end Place

namespace Walk

/-! ## Walks run to their end -/

theorem toList_of_next?_none {w : Walk} (h : w.next? = none) : w.toList = [] := by
  rw [toList]
  split
  next => rfl
  next hn => simp [h] at hn

/-- A walk visits a node and then what the walk after it visits. -/
theorem toList_of_next? {w v : Walk} {n : Node} (h : w.next? = some (n, v)) :
    w.toList = n :: v.toList := by
  rw [toList]
  split
  next hn => simp [h] at hn
  next m u hn =>
    obtain ⟨rfl, rfl⟩ := Prod.mk.inj (Option.some.inj (h.symm.trans hn))
    rfl

theorem toList_ended : Walk.ended.toList = [] :=
  toList_of_next?_none rfl

/-- A walk along the next siblings visits its place and all siblings after it. -/
theorem toList_along_next (p : Place) :
    (Walk.along .next p).toList = (p :: p.followingSiblings).map .inner := by
  generalize hl : p.followingSiblings = l
  induction l generalizing p with
  | nil =>
    have hn : p.next? = none := by
      cases h : p.next? with
      | none => rfl
      | some q => simp [Place.followingSiblings_of_next? h] at hl
    rw [toList_of_next? rfl, Link.follow?, hn, ofLink, toList_ended]
    rfl
  | cons q l ih =>
    cases h : p.next? with
    | none => simp [Place.followingSiblings_of_next?_none h] at hl
    | some q' =>
      obtain ⟨rfl, hrest⟩ := List.cons.inj ((Place.followingSiblings_of_next? h).symm.trans hl)
      rw [toList_of_next? rfl, Link.follow?, h, ofLink, ih q' hrest]
      rfl

theorem toList_along_previous (p : Place) :
    (Walk.along .previous p).toList = (p :: p.precedingSiblings).map .inner := by
  generalize hl : p.precedingSiblings = l
  induction l generalizing p with
  | nil =>
    have hn : p.previous? = none := by
      cases h : p.previous? with
      | none => rfl
      | some q => simp [Place.precedingSiblings_of_previous? h] at hl
    rw [toList_of_next? rfl, Link.follow?, hn, ofLink, toList_ended]
    rfl
  | cons q l ih =>
    cases h : p.previous? with
    | none => simp [Place.precedingSiblings_of_previous?_none h] at hl
    | some q' =>
      obtain ⟨rfl, hrest⟩ := List.cons.inj ((Place.precedingSiblings_of_previous? h).symm.trans hl)
      rw [toList_of_next? rfl, Link.follow?, h, ofLink, ih q' hrest]
      rfl

/-- A walk along the parents goes up to the top. -/
theorem toList_along_parent (p : Place) :
    (Walk.along .parent p).toList = (p :: p.ancestors).map .inner := by
  induction p using Place.induction_on_parent with
  | top p h =>
    rw [toList_of_next? rfl, Link.follow?, h, ofLink, toList_ended,
      Place.ancestors_of_parent_none h]
    rfl
  | child p q h ih =>
    rw [toList_of_next? rfl, Link.follow?, h, ofLink, ih, Place.ancestors_of_parent h]
    rfl

/-- A walk through a subtree has still to visit the subtree it stands at and what comes after that
subtree below the origin. -/
theorem toList_below (depth : Nat) (p : Place) :
    (Walk.below depth p).toList = (p.withDescendants ++ p.restBelow depth).map .inner := by
  rw [toList_of_next? rfl]
  match h : p.successor? depth with
  | none =>
    rw [Place.restBelow_of_successor?_none h, ofBelow, toList_ended]
    rfl
  | some (d, q) =>
    rw [Place.restBelow_of_successor? h, ofBelow, toList_below d q]
    rfl
termination_by (Walk.below depth p).remaining
decreasing_by exact remaining_below h

end Walk

namespace Node

/-! ## Walks from a node -/

/-- The walk over the children visits them all, in order. -/
theorem toList_childWalk (n : Node) : n.childWalk.toList = n.children := by
  match n with
  | .inner p =>
    rw [childWalk, children]
    cases h : p.firstChild? with
    | none => rw [Walk.ofLink, Walk.toList_ended, Place.children_of_firstChild?_none h]; rfl
    | some c => rw [Walk.ofLink, Walk.toList_along_next, Place.children_of_firstChild? h]
  | .attribute owner i => exact Walk.toList_ended

theorem toList_followingSiblingWalk (n : Node) :
    n.followingSiblingWalk.toList = n.followingSiblings := by
  match n with
  | .inner p =>
    rw [followingSiblingWalk, followingSiblings]
    cases h : p.next? with
    | none => rw [Walk.ofLink, Walk.toList_ended, Place.followingSiblings_of_next?_none h]; rfl
    | some q => rw [Walk.ofLink, Walk.toList_along_next, Place.followingSiblings_of_next? h]
  | .attribute owner i => exact Walk.toList_ended

theorem toList_precedingSiblingWalk (n : Node) :
    n.precedingSiblingWalk.toList = n.precedingSiblings := by
  match n with
  | .inner p =>
    rw [precedingSiblingWalk, precedingSiblings]
    cases h : p.previous? with
    | none => rw [Walk.ofLink, Walk.toList_ended, Place.precedingSiblings_of_previous?_none h]; rfl
    | some q =>
      rw [Walk.ofLink, Walk.toList_along_previous, Place.precedingSiblings_of_previous? h]
  | .attribute owner i => exact Walk.toList_ended

/-- The walk over the ancestors visits them all, the nearest first. -/
theorem toList_ancestorWalk (n : Node) : n.ancestorWalk.toList = n.ancestors := by
  match n with
  | .inner p =>
    rw [ancestorWalk, ancestors]
    cases h : p.parent? with
    | none => rw [Walk.ofLink, Walk.toList_ended, Place.ancestors_of_parent_none h]; rfl
    | some q => rw [Walk.ofLink, Walk.toList_along_parent, Place.ancestors_of_parent h]
  | .attribute owner i => exact Walk.toList_along_parent owner

/-- The walk through a subtree visits everything below its origin. -/
theorem toList_descendantWalk (n : Node) : n.descendantWalk.toList = n.descendants := by
  match n with
  | .inner p =>
    rw [descendantWalk, descendants, Place.descendants_eq]
    cases h : p.firstChild? with
    | none =>
      rw [Option.map_none, Walk.ofBelow, Walk.toList_ended, Place.children_of_firstChild?_none h]
      rfl
    | some c =>
      rw [Option.map_some, Walk.ofBelow, Walk.toList_below, Place.restBelow,
        Place.children_of_firstChild? h, List.flatMap_cons]
  | .attribute owner i => exact Walk.toList_ended

end Node

end HtmlQuery
