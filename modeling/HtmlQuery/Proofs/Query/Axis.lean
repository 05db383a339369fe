import HtmlQuery.Proofs.Tree.Kinship
import HtmlQuery.Proofs.Tree.Walk
import HtmlQuery.Query.Evaluation

/-!
# Where the axes lead

`Axis.Leads` says which nodes an axis leads to in terms of parents, of `Node.Above` and of the order
of the document.  `Axis.nodes` lists exactly these nodes (`Axis.mem_nodes`), the forward axes in the
order of the document and the reverse axes against it (`Axis.isNodeSet_ordered`).

The five axes `self`, `ancestor`, `descendant`, `following` and `preceding` share out the nodes of a
tree that are no attributes, and seen from an attribute three of them do.
-/

namespace HtmlQuery

open Node

/-! ## What an axis leads to -/

/-- Whether an axis leads from a node to another one. -/
def Axis.Leads (axis : Axis) (n m : Node) : Prop :=
  match axis with
  | .self => m = n
  | .child => m.isAttribute = false ∧ m.parent? = some n
  | .attribute => m.isAttribute = true ∧ m.parent? = some n
  | .parent => n.parent? = some m
  | .descendant => m.isAttribute = false ∧ n.Above m
  | .descendantOrSelf => m = n ∨ m.isAttribute = false ∧ n.Above m
  | .ancestor => m.Above n
  | .ancestorOrSelf => m = n ∨ m.Above n
  | .followingSibling =>
    n.isAttribute = false ∧ m.isAttribute = false ∧
      (∃ p, n.parent? = some p ∧ m.parent? = some p) ∧ n.Precedes m
  | .precedingSibling =>
    n.isAttribute = false ∧ m.isAttribute = false ∧
      (∃ p, n.parent? = some p ∧ m.parent? = some p) ∧ m.Precedes n
  | .following =>
    m.isAttribute = false ∧ m.document = n.document ∧ n.Precedes m ∧ ¬ n.Above m
  | .preceding =>
    m.isAttribute = false ∧ m.document = n.document ∧ m.Precedes n ∧ ¬ m.Above n
  | .namespace => False

/-- An axis lists the nodes that it leads to. -/
theorem Axis.mem_nodes (axis : Axis) {n m : Node} : m ∈ axis.nodes n ↔ axis.Leads n m := by
  match axis with
  | .self => exact List.mem_singleton
  | .child => exact mem_children_iff
  | .attribute => exact mem_attributeNodes
  | .parent => simp [nodes, Leads, Option.mem_toList]
  | .descendant => exact mem_descendants_iff
  | .descendantOrSelf => rw [nodes, Leads, List.mem_cons, mem_descendants_iff]
  | .ancestor => exact mem_ancestors_iff
  | .ancestorOrSelf => rw [nodes, Leads, List.mem_cons, mem_ancestors_iff]
  | .followingSibling => exact mem_followingSiblings_iff
  | .precedingSibling => exact mem_precedingSiblings_iff
  | .following => exact mem_following_iff
  | .preceding => exact mem_preceding_iff
  | .namespace => simp [nodes, Leads]

/-! ## The order of an axis -/

/-- The nodes of an axis in the order of the document. -/
def Axis.ordered (axis : Axis) (n : Node) : List Node :=
  if axis.isReverse then (axis.nodes n).reverse else axis.nodes n

/-- Every axis is in the order of the document, or against it if it is a reverse one. -/
theorem Axis.isNodeSet_ordered (axis : Axis) (n : Node) :
    IsNodeSet n.document (axis.ordered n) := by
  match axis with
  | .self => exact .singleton rfl
  | .child => exact isNodeSet_children n
  | .attribute => exact isNodeSet_attributeNodes n
  | .parent =>
    show IsNodeSet n.document n.parent?.toList
    cases h : n.parent? with
    | none => exact isNodeSet_nil _
    | some p => exact .singleton (Node.Above.document_rank (.single h)).1
  | .descendant => exact isNodeSet_descendants n
  | .descendantOrSelf =>
    exact (isNodeSet_descendants n).cons rfl fun m hm =>
      (mem_descendants_iff.mp hm).2.document_rank.2
  | .ancestor => exact isNodeSet_ancestors n
  | .ancestorOrSelf =>
    show IsNodeSet n.document (n :: n.ancestors).reverse
    rw [List.reverse_cons]
    exact (isNodeSet_ancestors n).concat rfl fun m hm =>
      (mem_ancestors_iff.mp (List.mem_reverse.mp hm)).document_rank.2
  | .followingSibling => exact isNodeSet_followingSiblings n
  | .precedingSibling => exact isNodeSet_precedingSiblings n
  | .following => exact isNodeSet_following n
  | .preceding => exact isNodeSet_preceding n
  | .namespace => exact isNodeSet_nil _

theorem Axis.mem_ordered {axis : Axis} {n m : Node} :
    m ∈ axis.ordered n ↔ m ∈ axis.nodes n := by
  rw [ordered]
  split
  · exact List.mem_reverse
  · exact Iff.rfl

theorem Axis.nodup_nodes (axis : Axis) (n : Node) : (axis.nodes n).Nodup := by
  have h := (axis.isNodeSet_ordered n).nodup
  rw [ordered] at h
  split at h
  · exact List.nodup_reverse.mp h
  · exact h

/-- An axis stays in the tree. -/
theorem Axis.document_of_mem {axis : Axis} {n m : Node} (h : m ∈ axis.nodes n) :
    m.document = n.document :=
  (axis.isNodeSet_ordered n).inside m (mem_ordered.mpr h)

/-! ## How the axes share out a tree -/

/-- Every node of the tree that is no attribute is on one of some axes, and once. -/
def SharedOut (axes : List Axis) (n : Node) : Prop :=
  (axes.flatMap (·.nodes n)).Nodup ∧
    ∀ m, m ∈ axes.flatMap (·.nodes n) ↔ m.isAttribute = false ∧ m.document = n.document

/-- The axes that share out a tree. -/
def sharingAxes : List Axis :=
  [.self, .ancestor, .descendant, .following, .preceding]

/-- No node is on two of the sharing axes: the rank and the parents of a node tell which. -/
theorem eq_of_leads {a b : Axis} {n m : Node} (ha : a ∈ sharingAxes) (hb : b ∈ sharingAxes)
    (h : a.Leads n m) (h' : b.Leads n m) : a = b := by
  have key : ∀ {c : Axis}, c ∈ sharingAxes → c.Leads n m →
      (c = .self ∧ m.rank = n.rank) ∨ (c = .ancestor ∧ m.rank < n.rank ∧ m.Above n) ∨
        (c = .descendant ∧ n.rank < m.rank ∧ n.Above m) ∨
        (c = .following ∧ n.rank < m.rank ∧ ¬ n.Above m) ∨
        (c = .preceding ∧ m.rank < n.rank ∧ ¬ m.Above n) := by
    intro c hc h
    simp only [sharingAxes, List.mem_cons, List.not_mem_nil, or_false] at hc
    rcases hc with rfl | rfl | rfl | rfl | rfl
    · exact .inl ⟨rfl, congrArg rank h⟩
    · exact .inr (.inl ⟨rfl, h.document_rank.2, h⟩)
    · exact .inr (.inr (.inl ⟨rfl, h.2.document_rank.2, h.2⟩))
    · obtain ⟨-, hd, hlt, hn⟩ := h
      exact .inr (.inr (.inr (.inl ⟨rfl, (precedes_iff_rank hd.symm).mp hlt, hn⟩)))
    · obtain ⟨-, hd, hlt, hn⟩ := h
      exact .inr (.inr (.inr (.inr ⟨rfl, (precedes_iff_rank hd).mp hlt, hn⟩)))
  rcases key ha h with ⟨rfl, h₁⟩ | ⟨rfl, h₁, h₂⟩ | ⟨rfl, h₁, h₂⟩ | ⟨rfl, h₁, h₂⟩ | ⟨rfl, h₁, h₂⟩ <;>
    rcases key hb h' with
      ⟨rfl, h₃⟩ | ⟨rfl, h₃, h₄⟩ | ⟨rfl, h₃, h₄⟩ | ⟨rfl, h₃, h₄⟩ | ⟨rfl, h₃, h₄⟩ <;>
    first | rfl | omega | exact absurd h₂ h₄ | exact absurd h₄ h₂

theorem nodup_flatMap_nodes {axes : List Axis} (hs : ∀ axis ∈ axes, axis ∈ sharingAxes)
    (hd : axes.Nodup) (n : Node) : (axes.flatMap (·.nodes n)).Nodup := by
  refine List.nodup_flatMap.mpr ⟨fun axis _ => axis.nodup_nodes n, ?_⟩
  refine List.Pairwise.imp_of_mem ?_ hd
  intro a b ha hb hne m hma hmb
  exact hne (eq_of_leads (hs a ha) (hs b hb) (a.mem_nodes.mp hma) (b.mem_nodes.mp hmb))

/-- A node of the tree that is no attribute is the node itself, or it comes before or after it and
then is above it, below it, or neither. -/
theorem exists_leads {n m : Node} (hm : m.isAttribute = false) (hd : m.document = n.document) :
    ∃ axis ∈ sharingAxes, axis.Leads n m := by
  simp only [sharingAxes, List.mem_cons, List.not_mem_nil, or_false, exists_eq_or_imp,
    exists_eq_left, Axis.Leads, hm, hd, true_and, precedes_iff_rank hd, precedes_iff_rank hd.symm]
  rcases Nat.lt_trichotomy m.rank n.rank with hlt | he | hlt
  · by_cases h : m.Above n <;> simp [h, hlt]
  · exact .inl (eq_of_rank_eq hd he)
  · by_cases h : n.Above m <;> simp [h, hlt]

theorem sharedOut_of_not_attribute {n : Node} (hn : n.isAttribute = false) :
    SharedOut sharingAxes n := by
  refine ⟨nodup_flatMap_nodes (fun _ h => h) (by decide) n, fun m => ?_⟩
  rw [List.mem_flatMap]
  constructor
  · rintro ⟨axis, hs, hm⟩
    refine ⟨?_, Axis.document_of_mem hm⟩
    have hl := axis.mem_nodes.mp hm
    simp only [sharingAxes, List.mem_cons, List.not_mem_nil, or_false] at hs
    rcases hs with rfl | rfl | rfl | rfl | rfl
    · exact (show m = n from hl) ▸ hn
    · exact Node.Above.isAttribute_eq_false hl
    · exact hl.1
    · exact hl.1
    · exact hl.1
  · rintro ⟨hm, hd⟩
    obtain ⟨axis, hs, hl⟩ := exists_leads hm hd
    exact ⟨axis, hs, axis.mem_nodes.mpr hl⟩

theorem sharedOut_of_attribute {owner : Place} {i : Fin owner.attributes.length} :
    SharedOut [.ancestor, .following, .preceding] (.attribute owner i) := by
  have hs : ∀ axis ∈ [Axis.ancestor, .following, .preceding], axis ∈ sharingAxes := by decide
  refine ⟨nodup_flatMap_nodes hs (by decide) _, fun m => ?_⟩
  rw [List.mem_flatMap]
  constructor
  · rintro ⟨axis, hmem, hm⟩
    refine ⟨?_, Axis.document_of_mem hm⟩
    have hl := axis.mem_nodes.mp hm
    simp only [List.mem_cons, List.not_mem_nil, or_false] at hmem
    rcases hmem with rfl | rfl | rfl
    · exact Node.Above.isAttribute_eq_false hl
    · exact hl.1
    · exact hl.1
  · rintro ⟨hm, hd⟩
    obtain ⟨axis, hmem, hl⟩ := exists_leads hm hd
    refine ⟨axis, ?_, axis.mem_nodes.mpr hl⟩
    simp only [sharingAxes, List.mem_cons, List.not_mem_nil, or_false] at hmem
    rcases hmem with rfl | rfl | rfl | rfl | rfl
    · -- The attribute itself is no candidate, and nothing is below it.
      simp [show m = .attribute owner i from hl] at hm
    · simp
    · exact absurd hl.2 not_attribute_above
    · simp
    · simp

/-- The axes are exact and ordered.  Each lists the nodes that it leads to, once and in its order,
and these are what the walks along its links visit.  Together some of them share out the tree: from
an attribute these are the ancestors, which begin with its element, what follows it, below its
element or behind, and what precedes it. -/
theorem Axis.nodes_exact (n : Node) :
    (∀ axis : Axis,
      (axis.nodes n).Nodup ∧ Ascending (axis.ordered n) ∧
        ∀ m, m ∈ axis.nodes n ↔ axis.Leads n m) ∧
    (if n.isAttribute then
      SharedOut [.ancestor, .following, .preceding] n ∧
        ∃ owner, n.parent? = some owner ∧ (Axis.ancestor.nodes n).head? = some owner ∧
          ∀ m ∈ owner.descendants, m ∈ Axis.following.nodes n
    else SharedOut [.self, .ancestor, .descendant, .following, .preceding] n) ∧
    n.childWalk.toList = Axis.child.nodes n ∧
    n.descendantWalk.toList = Axis.descendant.nodes n ∧
    n.ancestorWalk.toList = Axis.ancestor.nodes n ∧
    n.followingSiblingWalk.toList = Axis.followingSibling.nodes n ∧
    n.precedingSiblingWalk.toList = Axis.precedingSibling.nodes n := by
  refine ⟨fun axis => ?_, ?_, toList_childWalk n, toList_descendantWalk n, toList_ancestorWalk n,
    toList_followingSiblingWalk n, toList_precedingSiblingWalk n⟩
  · exact ⟨axis.nodup_nodes n, (axis.isNodeSet_ordered n).ascending, fun m => axis.mem_nodes⟩
  · match n with
    | .inner p =>
      rw [isAttribute_inner, if_neg Bool.false_ne_true]
      exact sharedOut_of_not_attribute (isAttribute_inner p)
    | .attribute owner i =>
      rw [isAttribute_attribute, if_pos rfl]
      refine ⟨sharedOut_of_attribute, .inner owner, rfl, rfl, fun m hm => ?_⟩
      obtain ⟨p, hp, rfl⟩ := List.mem_map.mp hm
      exact inner_mem_map.mpr (List.mem_append_left _ hp)

end HtmlQuery
