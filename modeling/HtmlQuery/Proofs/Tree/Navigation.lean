import HtmlQuery.Proofs.Tree.Numbering
import HtmlQuery.Proofs.Tree.Preorder

/-!
# Links, indexes and walks agree

Every way to get about in a tree is tied here to the list of the children of a node.  A child stands
at its index in that list, its links to siblings lead to the neighbours there, and the siblings on
both sides of it make up the rest (`Node.Follows`).  The links to the first and the last child lead
to the ends of the list, which holds the subtrees below the node in order (`Node.Leads`).  Going up
from a node ends at the top of its tree.

An attribute is linked to its element, and to nothing else (`Node.Hangs`).
-/

namespace HtmlQuery

namespace Place

/-! ## Links lead to neighbours -/

/-- The link to the next sibling leads to the first of the siblings after a place. -/
theorem next?_eq_head? (p : Place) : p.next? = p.followingSiblings.head? := by
  cases h : p.next? with
  | none => rw [followingSiblings_of_next?_none h, List.head?_nil]
  | some q => rw [followingSiblings_of_next? h, List.head?_cons]

theorem previous?_eq_head? (p : Place) : p.previous? = p.precedingSiblings.head? := by
  cases h : p.previous? with
  | none => rw [precedingSiblings_of_previous?_none h, List.head?_nil]
  | some q => rw [precedingSiblings_of_previous? h, List.head?_cons]

theorem firstChild?_eq_head? (p : Place) : p.firstChild? = p.children.head? := by
  cases h : p.firstChild? with
  | none => rw [children_of_firstChild?_none h, List.head?_nil]
  | some c => rw [children_of_firstChild? h, List.head?_cons]

section Neighbours

variable {p q : Place} (h : p.parent? = some q)
include h

theorem child?_index : q.child? p.index = some p := by
  rw [child?, children_split h, ← p.length_precedingSiblings, ← List.length_reverse,
    List.getElem?_append_right le_rfl, Nat.sub_self, List.getElem?_cons_zero]

/-- The next sibling is the child of the parent at the next index. -/
theorem next?_eq_child? : p.next? = q.child? (p.index + 1) := by
  rw [child?, children_split h, ← p.length_precedingSiblings, ← List.length_reverse,
    List.getElem?_append_right (Nat.le_add_right _ 1), Nat.add_sub_cancel_left,
    List.getElem?_cons_succ, next?_eq_head?, List.head?_eq_getElem?]

theorem previous?_eq_child? :
    p.previous? = if p.index = 0 then none else q.child? (p.index - 1) := by
  rw [child?, children_split h, ← p.length_precedingSiblings, previous?_eq_head?]
  cases p.precedingSiblings with
  | nil => rfl
  | cons s before =>
    rw [List.length_cons, if_neg (Nat.succ_ne_zero _), Nat.add_sub_cancel, List.reverse_cons,
      List.append_assoc, ← List.length_reverse, List.getElem?_append_right le_rfl, Nat.sub_self]
    rfl

end Neighbours

/-- The subtrees at the children are those below the top of the subtree, in order. -/
theorem map_focus_childrenFrom {id : TreeId} {parent : Tree} {above : List Level}
    {fits : Fits parent above} {passed : Passed} {rest : List Tree}
    (h : Splits above parent passed rest) :
    (childrenFrom id fits passed rest h).map focus = rest := by
  induction rest generalizing passed with
  | nil => rfl
  | cons t after ih => exact congrArg (List.cons t) (ih h.push)

theorem map_focus_children (p : Place) : p.children.map focus = p.focus.children := by
  rw [children_eq, map_focus_childrenFrom]

/-- Going up from a place ends at the top of the tree. -/
theorem getLast?_ancestors (p : Place) : (p :: p.ancestors).getLast? = some p.top := by
  induction p using induction_on_parent with
  | top p h => rw [ancestors_of_parent_none h, top_of_parent_none h, List.getLast?_singleton]
  | child p q h ih => rw [ancestors_of_parent h, List.getLast?_cons_cons, ih, top_of_parent h]

/-! ## Elements among the siblings -/

theorem findAfter?_eq {id : TreeId} {test : Tree → Bool} {parent : Tree} {above : List Level}
    {fits : Fits parent above} {passed : Passed} {t : Tree} {after : List Tree}
    (h : Splits above parent passed (t :: after)) :
    findAfter? id test fits passed t after h =
      (siblingsAfter id fits passed t after h).find? fun q => test q.focus := by
  induction after generalizing passed t with
  | nil => rfl
  | cons s after ih =>
    rw [findAfter?, siblingsAfter, List.find?_cons, ih h.push]
    cases test s <;> rfl

/-- The search along the links finds the first sibling in the list that passes the test. -/
theorem nextWhere?_eq (test : Tree → Bool) (p : Place) :
    p.nextWhere? test = p.followingSiblings.find? fun q => test q.focus := by
  obtain ⟨id, t, _ | ⟨level, above⟩, fits⟩ := p
  · rfl
  · exact findAfter?_eq fits.splits

theorem elementHere?_eq (p : Place) :
    p.elementHere? = (p :: p.followingSiblings).find? fun q => q.focus.isElement := by
  rw [elementHere?, nextWhere?_eq, List.find?_cons]
  cases p.focus.isElement <;> rfl

end Place

open Place

namespace Walk

theorem toList_congr {w v : Walk} (h : w.next? = v.next?) : w.toList = v.toList := by
  cases hv : v.next? with
  | none => rw [toList_of_next?_none hv, toList_of_next?_none (h.trans hv)]
  | some r => rw [toList_of_next? (show _ = some (r.1, r.2) from hv), toList_of_next? (h.trans hv)]

/-- A walk along elements leaves out the other siblings. -/
theorem toList_elements (p : Place) :
    (Walk.elements p).toList =
      ((p :: p.followingSiblings).filter fun q => q.focus.isElement).map .inner := by
  generalize hl : p.followingSiblings = l
  induction l generalizing p with
  | nil =>
    have hn : p.next? = none := by rw [next?_eq_head?, hl, List.head?_nil]
    cases hp : p.focus.isElement with
    | true =>
      have hhere : p.elementHere? = some p := by rw [elementHere?, if_pos hp]
      rw [toList_of_next? (by rw [next?, hhere]; rfl), hn, ofElements, toList_ended]
      simp [hp]
    | false =>
      have hhere : p.elementHere? = none := by
        rw [elementHere?_eq, hl, List.find?_cons, hp]
        rfl
      rw [toList_of_next?_none (by rw [next?, hhere]; rfl)]
      simp [hp]
  | cons q l ih =>
    have hn : p.next? = some q := by rw [next?_eq_head?, hl, List.head?_cons]
    have hq : q.followingSiblings = l :=
      (List.cons.inj ((followingSiblings_of_next? hn).symm.trans hl)).2
    cases hp : p.focus.isElement with
    | true =>
      have hhere : p.elementHere? = some p := by rw [elementHere?, if_pos hp]
      rw [toList_of_next? (by rw [next?, hhere]; rfl), hn, ofElements, ih q hq]
      simp [List.filter_cons, hp]
    | false =>
      have hhere : p.elementHere? = q.elementHere? := by
        rw [elementHere?_eq, elementHere?_eq, hl, hq, List.find?_cons, hp]
      have hnext : (Walk.elements p).next? = (Walk.elements q).next? := by
        rw [next?, next?, hhere]
      rw [toList_congr hnext, ih q hq]
      simp [List.filter_cons, hp]

end Walk

namespace Node

theorem isElement_inner (p : Place) : (inner p).isElement = p.focus.isElement := by
  rw [isElement, kind, Place.label, Tree.isElement]
  cases p.focus.label <;> rfl

theorem toList_elementChildWalk (n : Node) : n.elementChildWalk.toList = n.elementChildren := by
  match n with
  | .inner p =>
    have hfilter : (inner p).elementChildren =
        (p.children.filter fun q => q.focus.isElement).map inner := by
      rw [elementChildren, children, List.filter_map]
      exact congrArg _ (List.filter_congr fun q _ => isElement_inner q)
    rw [elementChildWalk, hfilter]
    cases h : p.firstChild? with
    | none => rw [Walk.ofElements, Walk.toList_ended, children_of_firstChild?_none h]; rfl
    | some c => rw [Walk.ofElements, Walk.toList_elements, children_of_firstChild? h]
  | .attribute owner i => exact Walk.toList_ended

/-! ## What the links of a node say -/

/-- A node that is no attribute is the child at an index of another one, by its path. -/
structure IsChildAt (p : Node) (i : Nat) (n : Node) : Prop where
  not_attribute : n.isAttribute = false
  parent : n.parent? = some p
  path : n.place.path = p.place.path ++ [i]

/-- The links of a node `n` are those of the child of `p` at index `i`. -/
structure Follows (p : Node) (i : Nat) (n : Node) : Prop where
  child : p.child? i = some n
  previous : n.previousSibling? = if i = 0 then none else p.child? (i - 1)
  next : n.nextSibling? = p.child? (i + 1)
  siblings : n.precedingSiblings.reverse ++ [n] ++ n.followingSiblings = p.children
  ancestors : n.ancestors = p :: p.ancestors
  last_ancestor : n.ancestors.getLast? = some n.document

/-- The links of a node down to its children lead to the ends of their list, and the walks visit
what the lists hold. -/
structure Leads (n : Node) : Prop where
  first : n.firstChild? = n.children.head?
  last : n.lastChild? = n.children.getLast?
  count : n.childCount = n.children.length
  elements : n.elementChildren = n.children.filter isElement
  childWalk : n.childWalk.toList = n.children
  elementChildWalk : n.elementChildWalk.toList = n.elementChildren
  descendantWalk : n.descendantWalk.toList = n.descendants
  followingSiblingWalk : n.followingSiblingWalk.toList = n.followingSiblings
  precedingSiblingWalk : n.precedingSiblingWalk.toList = n.precedingSiblings
  ancestorWalk : n.ancestorWalk.toList = n.ancestors

/-- The only link of a node `n` is the one to its element `e`. -/
structure Hangs (e n : Node) : Prop where
  element : e.isElement = true
  mem_attributeNodes : n ∈ e.attributeNodes
  parent : n.parent? = some e
  ancestors : n.ancestors = e :: e.ancestors
  document : n.document = e.document
  siblings : n.previousSibling? = none ∧ n.nextSibling? = none ∧ n.precedingSiblings = [] ∧
    n.followingSiblings = []
  children : n.firstChild? = none ∧ n.lastChild? = none ∧ n.children = [] ∧
    n.elementChildren = [] ∧ n.childCount = 0 ∧ ∀ i, n.child? i = none
  descendants : n.descendants = []

theorem child?_inner (p : Place) (i : Nat) : (inner p).child? i = (p.child? i).map inner := by
  rw [child?, children, List.getElem?_map, Place.child?]

theorem IsChildAt.follows {p n : Node} {i : Nat} (h : p.IsChildAt i n) : p.Follows i n := by
  obtain ⟨hn, hp, hpath⟩ := h
  match n with
  | .inner c =>
    obtain ⟨q, hq, rfl⟩ := parent?_inner.mp hp
    obtain rfl : c.index = i := by
      have hsame := (path_of_parent hq).symm.trans hpath
      exact (List.cons.inj (List.append_cancel_left hsame)).1
    constructor
    case child => rw [child?_inner, child?_index hq, Option.map_some]
    case previous =>
      rw [previousSibling?, previous?_eq_child? hq, child?_inner]
      split <;> rfl
    case next => rw [nextSibling?, next?_eq_child? hq, child?_inner]
    case siblings =>
      rw [precedingSiblings, followingSiblings, children, children_split hq]
      simp
    case ancestors =>
      rw [ancestors, ancestors_of_parent hq]
      rfl
    case last_ancestor =>
      have hlast := c.getLast?_ancestors
      rw [ancestors_of_parent hq, List.getLast?_cons_cons] at hlast
      rw [ancestors, ancestors_of_parent hq, List.getLast?_map, hlast]
      rfl
  | .attribute owner j => cases hn

/-- Being the child at an index is being found there. -/
theorem isChildAt_iff {p n : Node} {i : Nat} : p.IsChildAt i n ↔ p.child? i = some n := by
  refine ⟨fun h => h.follows.child, fun h => ?_⟩
  obtain ⟨hn, hp⟩ := mem_children_iff.mp (List.mem_of_getElem? h)
  match n with
  | .inner c =>
    obtain ⟨q, hq, rfl⟩ := parent?_inner.mp hp
    have hc : (inner q).IsChildAt c.index (inner c) := ⟨hn, hp, path_of_parent hq⟩
    -- No child stands in the list twice.
    have hnodup := (isNodeSet_children (inner q)).nodup
    have hi := (List.getElem?_eq_some_iff.mp h).1
    have hindex := (List.getElem?_inj hi hnodup).mp (h.trans hc.follows.child.symm)
    exact hindex ▸ hc
  | .attribute owner j => cases hn

/-- The links of every node lead to the ends of its list of children, and its walks visit its lists.
-/
theorem leads (n : Node) : n.Leads where
  first := by
    match n with
    | .inner p => rw [firstChild?, firstChild?_eq_head?, children, List.head?_map]
    | .attribute owner i => rfl
  last := by
    match n with
    | .inner p => rw [lastChild?, Place.lastChild?, children, List.getLast?_map]
    | .attribute owner i => rfl
  count := rfl
  elements := rfl
  childWalk := toList_childWalk n
  elementChildWalk := toList_elementChildWalk n
  descendantWalk := toList_descendantWalk n
  followingSiblingWalk := toList_followingSiblingWalk n
  precedingSiblingWalk := toList_precedingSiblingWalk n
  ancestorWalk := toList_ancestorWalk n

/-- Only elements carry attributes. -/
theorem isElement_of_attribute {owner : Place} (i : Fin owner.attributes.length) :
    (inner owner).isElement = true := by
  have hi := Nat.zero_lt_of_lt i.isLt
  rw [Place.attributes, Tree.attributes] at hi
  rw [isElement_inner, Tree.isElement]
  cases h : owner.focus.label with
  | element => rfl
  | _ =>
    rw [h] at hi
    exact absurd hi (Nat.lt_irrefl 0)

theorem hangs_attribute {owner : Place} (i : Fin owner.attributes.length) :
    (inner owner).Hangs (.attribute owner i) where
  element := isElement_of_attribute i
  mem_attributeNodes := mem_attributeNodes.mpr ⟨rfl, rfl⟩
  parent := rfl
  ancestors := rfl
  document := rfl
  siblings := ⟨rfl, rfl, rfl, rfl⟩
  children := ⟨rfl, rfl, rfl, rfl, rfl, fun _ => rfl⟩
  descendants := rfl

/-- Navigation is coherent.  The nodes of a tree all have its top for their document, and going up
from each of them ends there.  A node is the child at an index of another one by its path if it is
by the list of children, and then all its links are those of this child.  The links to the ends of
the list and the walks agree with the lists, and the children hold the subtrees of the tree in
order.  An attribute is linked to its element and to nothing else. -/
theorem navigation_coherent (n : Node) :
    (n ∈ all n.place.top ∧ (∀ m ∈ all n.place.top, m.document = n.document) ∧
      (n :: n.ancestors).getLast? = some n.document) ∧
    (∀ (p : Node) (i : Nat), p.IsChildAt i n ↔ p.child? i = some n) ∧
    (∀ (p : Node) (i : Nat), p.IsChildAt i n → p.Follows i n) ∧
    n.Leads ∧
    (if n.isAttribute then ∃ e, Hangs e n
      else n.children.map (·.place.focus) = n.place.focus.children ∧
        (n = n.document ∨ ∃ (p : Node) (i : Nat), p.IsChildAt i n)) := by
  refine ⟨⟨mem_all.mpr n.place.mem_withDescendants_top, ?_, ?_⟩, fun p i => isChildAt_iff,
    fun p i h => h.follows, n.leads, ?_⟩
  · intro m hm
    refine document_eq_iff.mpr ?_
    rw [top_eq_of_mem_withDescendants (mem_all.mp hm), top_of_parent_none n.place.parent?_top]
  · match n with
    | .inner p =>
      rw [ancestors, ← List.map_cons, List.getLast?_map, getLast?_ancestors]
      rfl
    | .attribute owner i =>
      rw [ancestors, ← List.map_cons, List.getLast?_cons, List.getLast?_map, getLast?_ancestors]
      rfl
  · match n with
    | .inner p =>
      rw [isAttribute_inner, if_neg Bool.false_ne_true]
      refine ⟨?_, ?_⟩
      · rw [children, List.map_map]
        exact p.map_focus_children
      · cases hp : p.parent? with
        | none => exact .inl (congrArg inner (top_of_parent_none hp).symm)
        | some q =>
          exact .inr ⟨inner q, p.index, isAttribute_inner p, parent?_inner.mpr ⟨q, hp, rfl⟩,
            path_of_parent hp⟩
    | .attribute owner i =>
      rw [isAttribute_attribute, if_pos rfl]
      exact ⟨inner owner, hangs_attribute i⟩

/-- The element `b` is the second child of `p`, and its links are those of this child. -/
theorem navigation_coherent_attributePage :
    ∃ p b : Node, [p, b].map tagName? = [some "p", some "b"] ∧ p.IsChildAt 1 b ∧ p.Follows 1 b := by
  have hb : ((all attributePage).get ⟨1, by decide⟩).IsChildAt 1
      ((all attributePage).get ⟨5, by decide⟩) := ⟨rfl, rfl, rfl⟩
  obtain ⟨-, -, hfollows, -⟩ := navigation_coherent ((all attributePage).get ⟨5, by decide⟩)
  exact ⟨_, _, rfl, hb, hfollows _ _ hb⟩

end Node

end HtmlQuery
