import HtmlQuery.Tree.Place
import Mathlib

/-!
# Parents, children and what lies below a place

The moves of a place are described here by one relation, that of a parent and a child.

*Children.*  The children of a place are the places whose parent it is (`Place.mem_children`).  Seen
from one of them they are the siblings before it, the place itself and the siblings after it
(`Place.children_split`).

*Lines.*  `Place.Above` is the transitive closure of the parent relation.  The ancestors of a place
are the places above it (`Place.mem_ancestors`), and every place is the top of its tree or below it.

*Subtrees.*  `Place.withDescendants` is a place followed by the subtrees of its children
(`Place.withDescendants_eq`), so what it lists is the place and everything below it
(`Place.mem_withDescendants`).  `Place.induction_on_children` is the induction that goes with this.
-/

namespace HtmlQuery

namespace Place

/-! ## Children -/

/-- The places of the children of a node from some child on. -/
def childrenFrom (id : TreeId) {parent : Tree} {above : List Level} (fits : Fits parent above) :
    (passed : Passed) → (rest : List Tree) → Splits above parent passed rest → List Place
  | _, [], _ => []
  | passed, t :: after, h =>
    ⟨id, t, ⟨parent, passed, after⟩ :: above, fits.below h⟩ ::
      childrenFrom id fits (passed.push t) after h.push

theorem siblingsAfter_eq {id : TreeId} {parent : Tree} {above : List Level}
    {fits : Fits parent above} {passed : Passed} {t : Tree} {after : List Tree}
    (h : Splits above parent passed (t :: after)) :
    siblingsAfter id fits passed t after h = childrenFrom id fits (passed.push t) after h.push := by
  induction after generalizing passed t with
  | nil => rfl
  | cons s after ih => exact congrArg _ (ih h.push)

theorem children_eq (p : Place) :
    p.children =
      childrenFrom p.tree p.fits (.start p.focus p.above) p.focus.children
        (.start p.focus p.above) := by
  obtain ⟨id, ⟨label, kids⟩, above, fits⟩ := p
  cases kids with
  | nil => rfl
  | cons t after => exact congrArg _ (siblingsAfter_eq _)

/-- What the children before a place are counted to, and the place itself. -/
theorem push_pop {above : List Level} {parent s : Tree} {before rest : List Tree}
    {index rank : Nat} (h : Splits above parent ⟨s :: before, index, rank⟩ rest) :
    (⟨before, index - 1, rank - s.weight⟩ : Passed).push s = ⟨s :: before, index, rank⟩ := by
  have hi := h.index
  have hr := h.rank
  simp only [List.length_cons, weightOfForest] at hi hr
  simp only [Passed.push, Passed.mk.injEq, true_and]
  omega

theorem childrenFrom_congr {id : TreeId} {parent : Tree} {above : List Level}
    {fits : Fits parent above} {passed passed' : Passed} {rest : List Tree}
    (e : passed = passed') (h : Splits above parent passed rest)
    (h' : Splits above parent passed' rest) :
    childrenFrom id fits passed rest h = childrenFrom id fits passed' rest h' := by
  subst e
  rfl

theorem reverse_siblingsBefore_append {id : TreeId} {parent : Tree} {above : List Level}
    {fits : Fits parent above} {before rest : List Tree} {index rank : Nat}
    (h : Splits above parent ⟨before, index, rank⟩ rest) :
    (siblingsBefore id fits before index rank rest h).reverse ++
        childrenFrom id fits ⟨before, index, rank⟩ rest h =
      childrenFrom id fits (.start parent above) parent.children (.start parent above) := by
  induction before generalizing index rank rest with
  | nil =>
    have hi : index = 0 := h.index
    have hr : rank = rankOf above + 1 + parent.attributes.length := h.rank
    have hc : parent.children = rest := h.children
    subst hi hr hc
    rfl
  | cons s before ih =>
    have step := ih h.pop
    rw [childrenFrom, childrenFrom_congr (push_pop h) _ h] at step
    rw [siblingsBefore, List.reverse_cons, List.append_assoc]
    exact step

/-- Seen from one of them, the children are those before it, itself, and those after it. -/
theorem children_split {p q : Place} (h : p.parent? = some q) :
    q.children = p.precedingSiblings.reverse ++ p :: p.followingSiblings := by
  obtain ⟨id, t, above, fits⟩ := p
  cases above with
  | nil => simp [parent?] at h
  | cons level above =>
    obtain rfl := Option.some.inj h
    rw [children_eq, precedingSiblings, followingSiblings, siblingsAfter_eq]
    exact (reverse_siblingsBefore_append fits.splits).symm

theorem parent?_of_mem_childrenFrom {id : TreeId} {parent : Tree} {above : List Level}
    {fits : Fits parent above} {passed : Passed} {rest : List Tree}
    {h : Splits above parent passed rest} {c : Place} (hc : c ∈ childrenFrom id fits passed rest h) :
    c.parent? = some ⟨id, parent, above, fits⟩ := by
  induction rest generalizing passed with
  | nil => simp [childrenFrom] at hc
  | cons t after ih =>
    rw [childrenFrom, List.mem_cons] at hc
    rcases hc with rfl | hc
    · rfl
    · exact ih hc

/-- The children of a place are the places whose parent it is. -/
theorem mem_children {p c : Place} : c ∈ p.children ↔ c.parent? = some p := by
  constructor
  · intro hc
    rw [children_eq] at hc
    exact parent?_of_mem_childrenFrom hc
  · intro h
    rw [children_split h]
    simp

/-- Without a parent there are no siblings. -/
theorem siblings_of_parent_none {p : Place} (h : p.parent? = none) :
    p.followingSiblings = [] ∧ p.precedingSiblings = [] := by
  obtain ⟨id, t, _ | ⟨level, above⟩, fits⟩ := p
  · exact ⟨rfl, rfl⟩
  · simp [parent?] at h

/-- Two children of one place are the same one, or the one is a sibling before or after the
other. -/
theorem sibling_cases {p q r : Place} (hp : p.parent? = some r) (hq : q.parent? = some r) :
    q ∈ p.precedingSiblings ∨ q = p ∨ q ∈ p.followingSiblings := by
  have hmem := mem_children.mpr hq
  rw [children_split hp, List.mem_append, List.mem_reverse, List.mem_cons] at hmem
  exact hmem

theorem parent_of_mem_followingSiblings {p q : Place} (h : q ∈ p.followingSiblings) :
    ∃ r, p.parent? = some r ∧ q.parent? = some r := by
  cases hp : p.parent? with
  | none => simp [(siblings_of_parent_none hp).1] at h
  | some r =>
    refine ⟨r, rfl, mem_children.mp ?_⟩
    rw [children_split hp]
    simp [h]

theorem parent_of_mem_precedingSiblings {p q : Place} (h : q ∈ p.precedingSiblings) :
    ∃ r, p.parent? = some r ∧ q.parent? = some r := by
  cases hp : p.parent? with
  | none => simp [(siblings_of_parent_none hp).2] at h
  | some r =>
    refine ⟨r, rfl, mem_children.mp ?_⟩
    rw [children_split hp]
    simp [h]

/-! ## Lines -/

/-- A place is above another one: its parent, the parent of its parent, and so on. -/
def Above : Place → Place → Prop :=
  Relation.TransGen fun q p => p.parent? = some q

/-- What is above a place with a parent is that parent or above it. -/
theorem above_iff_of_parent {p q a : Place} (h : p.parent? = some q) :
    a.Above p ↔ a = q ∨ a.Above q := by
  rw [Above, Relation.TransGen.tail'_iff]
  constructor
  · rintro ⟨b, hab, hb⟩
    obtain rfl := Option.some.inj (hb.symm.trans h)
    rcases Relation.reflTransGen_iff_eq_or_transGen.mp hab with rfl | hab
    · exact .inl rfl
    · exact .inr hab
  · rintro (rfl | hab)
    · exact ⟨a, .refl, h⟩
    · exact ⟨q, hab.to_reflTransGen, h⟩

theorem not_above_of_parent_none {p a : Place} (h : p.parent? = none) : ¬ a.Above p := by
  rw [Above, Relation.TransGen.tail'_iff]
  rintro ⟨b, _, hb⟩
  simp [h] at hb

/-- A place is above another one if it is the parent of a place that is that one or above it. -/
theorem above_iff_exists_child {p q : Place} :
    p.Above q ↔ ∃ c, c.parent? = some p ∧ (q = c ∨ c.Above q) := by
  rw [Above, Relation.TransGen.head'_iff]
  simp only [Relation.reflTransGen_iff_eq_or_transGen]

/-- The induction from the top of a tree down: from every parent to its children. -/
theorem induction_on_parent {motive : Place → Prop}
    (top : ∀ p, p.parent? = none → motive p)
    (child : ∀ p q, p.parent? = some q → motive q → motive p) (p : Place) : motive p := by
  obtain ⟨id, t, above, fits⟩ := p
  induction above generalizing t with
  | nil => exact top _ rfl
  | cons level above ih => exact child _ _ rfl (ih level.parent fits.parent)

theorem ancestors_of_parent {p q : Place} (h : p.parent? = some q) :
    p.ancestors = q :: q.ancestors := by
  obtain ⟨id, t, _ | ⟨level, above⟩, fits⟩ := p
  · simp [parent?] at h
  · obtain rfl := Option.some.inj h
    rfl

theorem ancestors_of_parent_none {p : Place} (h : p.parent? = none) : p.ancestors = [] := by
  obtain ⟨id, t, _ | ⟨level, above⟩, fits⟩ := p
  · rfl
  · simp [parent?] at h

/-- The ancestors of a place are the places above it. -/
theorem mem_ancestors {p a : Place} : a ∈ p.ancestors ↔ a.Above p := by
  induction p using induction_on_parent with
  | top p h => simp [ancestors_of_parent_none h, not_above_of_parent_none h]
  | child p q h ih => rw [ancestors_of_parent h, List.mem_cons, ih, above_iff_of_parent h]

theorem top_of_parent {p q : Place} (h : p.parent? = some q) : p.top = q.top := by
  obtain ⟨id, t, _ | ⟨level, above⟩, fits⟩ := p
  · simp [parent?] at h
  · obtain rfl := Option.some.inj h
    rfl

theorem top_of_parent_none {p : Place} (h : p.parent? = none) : p.top = p := by
  obtain ⟨id, t, _ | ⟨level, above⟩, fits⟩ := p
  · rfl
  · simp [parent?] at h

theorem parent?_top (p : Place) : p.top.parent? = none := by
  induction p using induction_on_parent with
  | top p h => rw [top_of_parent_none h, h]
  | child p q h ih => rw [top_of_parent h, ih]

theorem tree_top (p : Place) : p.top.tree = p.tree := by
  obtain ⟨id, t, above, fits⟩ := p
  induction above generalizing t with
  | nil => rfl
  | cons level above ih => exact ih level.parent fits.parent

/-- Every place is the top of its tree or below it. -/
theorem eq_top_or_top_above (p : Place) : p = p.top ∨ p.top.Above p := by
  induction p using induction_on_parent with
  | top p h => exact .inl (top_of_parent_none h).symm
  | child p q h ih =>
    rw [top_of_parent h, above_iff_of_parent h]
    rcases ih with ih | ih
    · exact .inr (.inl ih.symm)
    · exact .inr (.inr ih)

theorem Above.top_eq {a p : Place} (h : a.Above p) : p.top = a.top := by
  induction h with
  | single h => exact top_of_parent h
  | tail _ h ih => exact (top_of_parent h).trans ih

/-! ## Subtrees -/

theorem size_le_of_mem_forest {t : Tree} {ts : List Tree} (h : t ∈ ts) :
    t.size ≤ sizeOfForest ts := by
  induction ts with
  | nil => simp at h
  | cons s ts ih =>
    rw [sizeOfForest]
    rcases List.mem_cons.mp h with rfl | h
    · omega
    · have := ih h
      omega

theorem focus_mem_of_parent {p q : Place} (h : p.parent? = some q) :
    p.focus ∈ q.focus.children := by
  obtain ⟨id, t, _ | ⟨level, above⟩, fits⟩ := p
  · simp [parent?] at h
  · obtain rfl := Option.some.inj h
    rw [fits.splits.children, List.reverseAux_eq]
    simp

/-- The subtree at a child is smaller. -/
theorem size_lt_of_mem_children {p c : Place} (h : c ∈ p.children) :
    c.focus.size < p.focus.size := by
  have hle := size_le_of_mem_forest (focus_mem_of_parent (mem_children.mp h))
  cases hp : p.focus with
  | node label kids =>
    rw [hp] at hle
    rw [Tree.size]
    exact Nat.lt_one_add_iff.mpr hle

/-- The induction from the leaves of a tree up: from all children to their parent. -/
theorem induction_on_children {motive : Place → Prop}
    (step : ∀ p : Place, (∀ c ∈ p.children, motive c) → motive p) (p : Place) : motive p :=
  step p fun c _ => induction_on_children step c
termination_by p.focus.size
decreasing_by exact size_lt_of_mem_children ‹_›

mutual

theorem placesThen_append (id : TreeId) (more : List Place) :
    (t : Tree) → (above : List Level) → (fits : Fits t above) →
      t.placesThen id more above fits = t.placesThen id [] above fits ++ more
  | .node label [], above, fits => by simp [Tree.placesThen]
  | .node label (t :: after), above, fits => by
    rw [Tree.placesThen, Tree.placesThen, placesThen_append id _ t,
      placesAfterThen_append id more, placesThen_append id (placesAfterThen id [] ..) t]
    simp

theorem placesAfterThen_append (id : TreeId) (more : List Place) {parent : Tree}
    {above : List Level} (fits : Fits parent above) :
    (passed : Passed) → (t : Tree) → (after : List Tree) →
      (h : Splits above parent passed (t :: after)) →
        placesAfterThen id more fits passed t after h =
          placesAfterThen id [] fits passed t after h ++ more
  | _, _, [], _ => by simp [placesAfterThen]
  | passed, t, s :: after, h => by
    rw [placesAfterThen, placesAfterThen, placesThen_append id _ s,
      placesAfterThen_append id more fits _ s after,
      placesThen_append id (placesAfterThen id [] ..) s]
    simp

end

theorem placesAfterThen_eq {id : TreeId} {parent : Tree} {above : List Level}
    {fits : Fits parent above} {passed : Passed} {t : Tree} {after : List Tree}
    (h : Splits above parent passed (t :: after)) :
    placesAfterThen id [] fits passed t after h =
      (siblingsAfter id fits passed t after h).flatMap withDescendants := by
  induction after generalizing passed t with
  | nil => simp [placesAfterThen, siblingsAfter]
  | cons s after ih =>
    rw [placesAfterThen, placesThen_append, siblingsAfter, List.flatMap_cons, ih]
    rfl

/-- A subtree is its top and the subtrees of the children, in order. -/
theorem withDescendants_eq (p : Place) :
    p.withDescendants = p :: p.children.flatMap withDescendants := by
  obtain ⟨id, ⟨label, kids⟩, above, fits⟩ := p
  cases kids with
  | nil => simp [withDescendants, Tree.placesThen, children, firstChild?]
  | cons t after =>
    rw [withDescendants, Tree.placesThen, placesThen_append, placesAfterThen_eq]
    rfl

theorem descendants_eq (p : Place) : p.descendants = p.children.flatMap withDescendants := by
  rw [descendants, withDescendants_eq, List.tail_cons]

/-- A subtree lists its top and everything below it. -/
theorem mem_withDescendants {p q : Place} : q ∈ p.withDescendants ↔ q = p ∨ p.Above q := by
  induction p using induction_on_children with
  | step p ih =>
    rw [withDescendants_eq, List.mem_cons, List.mem_flatMap, above_iff_exists_child]
    simp only [mem_children]
    constructor
    · rintro (rfl | ⟨c, hc, hq⟩)
      · exact .inl rfl
      · exact .inr ⟨c, hc, (ih c (mem_children.mpr hc)).mp hq⟩
    · rintro (rfl | ⟨c, hc, hq⟩)
      · exact .inl rfl
      · exact .inr ⟨c, hc, (ih c (mem_children.mpr hc)).mpr hq⟩

theorem mem_withDescendants_self (p : Place) : p ∈ p.withDescendants :=
  mem_withDescendants.mpr (.inl rfl)

/-- What a place is above is what its children list. -/
theorem mem_descendants {p q : Place} : q ∈ p.descendants ↔ p.Above q := by
  rw [descendants_eq, List.mem_flatMap, above_iff_exists_child]
  simp only [mem_children, mem_withDescendants]

/-- The subtree of its top lists every place of a tree. -/
theorem mem_withDescendants_top (p : Place) : p ∈ p.top.withDescendants :=
  mem_withDescendants.mpr p.eq_top_or_top_above

theorem top_eq_of_mem_withDescendants {p q : Place} (h : q ∈ p.withDescendants) :
    q.top = p.top := by
  rcases mem_withDescendants.mp h with rfl | h
  · rfl
  · exact h.top_eq

end Place

end HtmlQuery
