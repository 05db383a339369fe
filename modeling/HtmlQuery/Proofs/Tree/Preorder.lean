import HtmlQuery.Proofs.Tree.Extent

/-!
# What lies below and behind a place, by recursion

`Place.below` says by recursion on the tree in which order a reader meets what is below a place:
each child, and behind it what is below the child, from the first child to the last.  `Place.behind`
takes the siblings after a place from the children of its parent.  Both are what the lists of a
place hold (`Place.descendants_eq_below`, `Place.followingSiblings_eq_behind`).
-/

namespace HtmlQuery

namespace Place

/-- The places below a place: each child and behind it the places below the child. -/
def below (p : Place) : List Place :=
  p.children.attach.flatMap fun c => c.val :: c.val.below
termination_by p.focus.size
decreasing_by exact size_lt_of_mem_children c.property

theorem below_eq (p : Place) : p.below = p.children.flatMap fun c => c :: c.below := by
  rw [below, List.flatMap_subtype (g := fun c => c :: c.below) fun _ _ => rfl, List.unattach_attach]

theorem withDescendants_eq_cons (p : Place) : p.withDescendants = p :: p.descendants := by
  rw [descendants_eq, ← withDescendants_eq]

/-- What is listed below a place is what recursion finds there. -/
theorem descendants_eq_below (p : Place) : p.descendants = p.below := by
  induction p using induction_on_children with
  | step p ih =>
    rw [descendants_eq, below_eq]
    refine List.flatMap_congr fun c hc => ?_
    rw [withDescendants_eq_cons, ih c hc]

/-- The children of the parent that stand behind the place. -/
def behind (p : Place) : List Place :=
  match p.parent? with
  | none => []
  | some parent => parent.children.drop (p.index + 1)

theorem length_siblingsBefore {id : TreeId} {parent : Tree} {above : List Level}
    {fits : Fits parent above} {before rest : List Tree} {index rank : Nat}
    (h : Splits above parent ⟨before, index, rank⟩ rest) :
    (siblingsBefore id fits before index rank rest h).length = before.length := by
  induction before generalizing index rank rest with
  | nil => rfl
  | cons s before ih => rw [siblingsBefore, List.length_cons, ih, List.length_cons]

/-- The index of a place is the number of its siblings before it. -/
theorem length_precedingSiblings (p : Place) : p.precedingSiblings.length = p.index := by
  obtain ⟨id, t, _ | ⟨level, above⟩, fits⟩ := p
  · rfl
  · rw [precedingSiblings, length_siblingsBefore]
    exact fits.splits.index.symm

theorem followingSiblings_eq_behind (p : Place) : p.followingSiblings = p.behind := by
  rw [behind]
  split
  next h => exact (siblings_of_parent_none h).1
  next parent h =>
    have hlength : (p.precedingSiblings.reverse ++ [p]).length = p.index + 1 := by
      rw [List.length_append, List.length_reverse, length_precedingSiblings, List.length_singleton]
    rw [children_split h, List.append_cons, ← hlength, List.drop_left]

end Place

end HtmlQuery
