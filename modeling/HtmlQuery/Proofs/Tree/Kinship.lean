import HtmlQuery.Proofs.Tree.Order

/-!
# The relatives of a node

Who is related to a node is said by parents, by `Node.Above`, which is the transitive closure of the
parent relation, and by the order of the document.  Each list of relatives has the members that this
says, `mem_descendants_iff` and so on, and is in the order of the document or against it,
`isNodeSet_descendants` and so on.

An attribute is below its element and has nothing below it.  What lies below its element comes after
it.
-/

namespace HtmlQuery

namespace Node

/-! ## Kinds and parents -/

@[simp] theorem isAttribute_inner (p : Place) : (inner p).isAttribute = false := by
  rw [isAttribute, kind]
  cases p.label <;> rfl

@[simp] theorem isAttribute_attribute (owner : Place) (i : Fin owner.attributes.length) :
    (Node.attribute owner i).isAttribute = true :=
  rfl

/-- The parent of a node that is no attribute is at the parent of its place. -/
theorem parent?_inner {p : Place} {n : Node} :
    (inner p).parent? = some n ↔ ∃ q, p.parent? = some q ∧ inner q = n :=
  Option.map_eq_some_iff

/-- A node is above another one: its parent, the parent of its parent, and so on. -/
def Above : Node → Node → Prop :=
  Relation.TransGen fun a n => n.parent? = some a

/-- A node is above another one if it is the parent or above the parent. -/
theorem above_iff {a n : Node} : a.Above n ↔ ∃ p, n.parent? = some p ∧ (a = p ∨ a.Above p) := by
  rw [Above, Relation.TransGen.tail'_iff]
  constructor
  · rintro ⟨p, hap, hp⟩
    rcases Relation.reflTransGen_iff_eq_or_transGen.mp hap with he | hap
    · exact ⟨p, hp, .inl he.symm⟩
    · exact ⟨p, hp, .inr hap⟩
  · rintro ⟨p, hp, rfl | hap⟩
    · exact ⟨a, .refl, hp⟩
    · exact ⟨p, hap.to_reflTransGen, hp⟩

theorem above_inner {a : Node} {q : Place} :
    a.Above (inner q) ↔ ∃ p, inner p = a ∧ p.Above q := by
  induction q using Place.induction_on_parent with
  | top q h =>
    rw [above_iff]
    simp [parent?, h, Place.not_above_of_parent_none h]
  | child q r h ih =>
    rw [above_iff]
    simp only [parent?, h, Option.map_some, Option.some.injEq, exists_eq_left', ih,
      Place.above_iff_of_parent h]
    constructor
    · rintro (rfl | ⟨p, rfl, hp⟩)
      · exact ⟨r, rfl, .inl rfl⟩
      · exact ⟨p, rfl, .inr hp⟩
    · rintro ⟨p, rfl, rfl | hp⟩
      · exact .inl rfl
      · exact .inr ⟨p, rfl, hp⟩

/-- Nodes that are no attributes are above each other as their places are. -/
theorem inner_above_inner {p q : Place} : (inner p).Above (inner q) ↔ p.Above q := by
  rw [above_inner]
  constructor
  · rintro ⟨r, hr, h⟩
    exact Node.inner.inj hr ▸ h
  · intro h
    exact ⟨p, rfl, h⟩

/-- Above an attribute are its owner and what is above that. -/
theorem above_attribute {a : Node} {owner : Place} {i : Fin owner.attributes.length} :
    a.Above (Node.attribute owner i) ↔ ∃ p, inner p = a ∧ (p = owner ∨ p.Above owner) := by
  rw [above_iff]
  simp only [parent?, Option.some.injEq, exists_eq_left', above_inner]
  constructor
  · rintro (rfl | ⟨p, rfl, hp⟩)
    · exact ⟨owner, rfl, .inl rfl⟩
    · exact ⟨p, rfl, .inr hp⟩
  · rintro ⟨p, rfl, rfl | hp⟩
    · exact .inl rfl
    · exact .inr ⟨p, rfl, hp⟩

/-- Nothing is below an attribute. -/
theorem not_attribute_above {owner : Place} {i : Fin owner.attributes.length} {n : Node} :
    ¬ (Node.attribute owner i).Above n := by
  intro h
  match n, h with
  | .inner q, h => simpa using above_inner.mp h
  | .attribute _ j, h => simpa using above_attribute.mp h

/-- What is above a node is no attribute. -/
theorem Above.isAttribute_eq_false {a n : Node} (h : a.Above n) : a.isAttribute = false :=
  match a, h with
  | .inner p, _ => isAttribute_inner p
  | .attribute .., h => absurd h not_attribute_above

/-! ## Order by ranks -/

/-- Nodes of one tree that are no attributes come in the order of their ranks. -/
theorem precedes_inner_inner {p q : Place} (h : p.top = q.top) :
    (inner p).Precedes (inner q) ↔ p.rank < q.rank :=
  precedes_iff_rank (document_eq_iff.mpr h)

/-- An attribute comes right behind its owner and the attributes before it. -/
theorem precedes_attribute_inner {owner q : Place} {i : Fin owner.attributes.length}
    (h : owner.top = q.top) :
    (Node.attribute owner i).Precedes (inner q) ↔ owner.rank + 1 + i < q.rank :=
  precedes_iff_rank (document_eq_iff.mpr h)

theorem precedes_inner_attribute {owner q : Place} {i : Fin owner.attributes.length}
    (h : q.top = owner.top) :
    (inner q).Precedes (Node.attribute owner i) ↔ q.rank < owner.rank + 1 + i :=
  precedes_iff_rank (document_eq_iff.mpr h)

end Node

open Node

/-! ## Who is on a list of relatives -/

/-- The siblings after a place have its parent and come later. -/
theorem Place.mem_followingSiblings {p q : Place} :
    q ∈ p.followingSiblings ↔
      (∃ r, p.parent? = some r ∧ q.parent? = some r) ∧ (inner p).Precedes (inner q) := by
  have hp := p.rank_add_attributes_lt_limit
  have hq := q.rank_add_attributes_lt_limit
  constructor
  · intro h
    obtain ⟨r, hpr, hqr⟩ := parent_of_mem_followingSiblings h
    refine ⟨⟨r, hpr, hqr⟩, ?_⟩
    rw [precedes_inner_inner ((top_of_parent hpr).trans (top_of_parent hqr).symm)]
    have := (separated_of_mem_followingSiblings h).limit
    omega
  · rintro ⟨⟨r, hpr, hqr⟩, hlt⟩
    rw [precedes_inner_inner ((top_of_parent hpr).trans (top_of_parent hqr).symm)] at hlt
    rcases sibling_cases hpr hqr with hs | rfl | hs
    · have := (separated_of_mem_precedingSiblings hs).limit
      omega
    · omega
    · exact hs

/-- The siblings before a place have its parent and come earlier. -/
theorem Place.mem_precedingSiblings {p q : Place} :
    q ∈ p.precedingSiblings ↔
      (∃ r, p.parent? = some r ∧ q.parent? = some r) ∧ (inner q).Precedes (inner p) := by
  have hp := p.rank_add_attributes_lt_limit
  have hq := q.rank_add_attributes_lt_limit
  constructor
  · intro h
    obtain ⟨r, hpr, hqr⟩ := parent_of_mem_precedingSiblings h
    refine ⟨⟨r, hpr, hqr⟩, ?_⟩
    rw [precedes_inner_inner ((top_of_parent hqr).trans (top_of_parent hpr).symm)]
    have := (separated_of_mem_precedingSiblings h).limit
    omega
  · rintro ⟨⟨r, hpr, hqr⟩, hlt⟩
    rw [precedes_inner_inner ((top_of_parent hqr).trans (top_of_parent hpr).symm)] at hlt
    rcases sibling_cases hpr hqr with hs | rfl | hs
    · exact hs
    · omega
    · have := (separated_of_mem_followingSiblings hs).limit
      omega

/-- What comes behind the subtree at a place comes behind the place and is not below it. -/
theorem mem_following_inner {p q : Place} :
    q ∈ p.following ↔
      (inner q).document = (inner p).document ∧ (inner p).Precedes (inner q) ∧
        ¬ (inner p).Above (inner q) := by
  rw [Place.mem_following, document_eq_iff, inner_above_inner]
  refine and_congr_right fun htop => ?_
  have htop : q.top = p.top := htop
  rw [precedes_inner_inner htop.symm, Place.above_iff_rank htop]
  have := p.rank_add_attributes_lt_limit
  omega

/-- What ends before a place comes before it and is not above it. -/
theorem mem_preceding_inner {p q : Place} :
    q ∈ p.preceding ↔
      (inner q).document = (inner p).document ∧ (inner q).Precedes (inner p) ∧
        ¬ (inner q).Above (inner p) := by
  rw [Place.mem_preceding, document_eq_iff, inner_above_inner]
  refine and_congr_right fun htop => ?_
  have htop : q.top = p.top := htop
  rw [precedes_inner_inner htop, Place.above_iff_rank htop.symm]
  have := q.rank_add_attributes_lt_limit
  omega

/-- What comes behind an attribute is what lies below its element or follows it. -/
theorem mem_following_attribute {owner q : Place} {i : Fin owner.attributes.length} :
    q ∈ owner.descendants ++ owner.following ↔
      (inner q).document = (Node.attribute owner i).document ∧
        (Node.attribute owner i).Precedes (inner q) := by
  have hi := i.isLt
  rw [List.mem_append, Place.mem_descendants, Place.mem_following, document_eq_iff]
  simp only [Node.place]
  constructor
  · intro h
    have htop : q.top = owner.top := by
      rcases h with h | h
      · exact h.top_eq
      · exact h.1
    refine ⟨htop, (precedes_attribute_inner htop.symm).mpr ?_⟩
    rcases h with h | h
    · have := Place.extent_of_above h
      omega
    · have := owner.rank_add_attributes_lt_limit
      omega
  · rintro ⟨htop, h⟩
    have htop : q.top = owner.top := htop
    rw [precedes_attribute_inner htop.symm] at h
    rcases Nat.lt_or_ge q.rank owner.limit with hlt | hge
    · exact .inl ((Place.above_iff_rank htop).mpr ⟨by omega, hlt⟩)
    · exact .inr ⟨htop, hge⟩

/-- What comes before an attribute and is not above it ends before its element. -/
theorem mem_preceding_attribute {owner q : Place} {i : Fin owner.attributes.length} :
    q ∈ owner.preceding ↔
      (inner q).document = (Node.attribute owner i).document ∧
        (inner q).Precedes (Node.attribute owner i) ∧
          ¬ (inner q).Above (Node.attribute owner i) := by
  rw [Place.mem_preceding, document_eq_iff, above_attribute]
  refine and_congr_right fun htop => ?_
  have htop : q.top = owner.top := htop
  have hi := i.isLt
  have hq := q.rank_add_attributes_lt_limit
  rw [precedes_inner_attribute htop]
  simp only [Node.inner.injEq, exists_eq_left, Place.above_iff_rank htop.symm, not_or]
  constructor
  · intro h
    refine ⟨by omega, ?_, by omega⟩
    rintro rfl
    omega
  · rintro ⟨hlt, hne, habove⟩
    rcases Place.before_trichotomy htop with he | hb | hb
    · exact absurd he hne
    · have := hb.rank
      omega
    · have := hb.rank
      omega

theorem inner_mem_map {q : Place} {places : List Place} :
    inner q ∈ places.map inner ↔ q ∈ places :=
  List.mem_map_of_injective fun _ _ => Node.inner.inj

/-- The attributes of a node are the attributes that have it as their parent. -/
theorem mem_attributeNodes {n m : Node} :
    m ∈ n.attributeNodes ↔ m.isAttribute = true ∧ m.parent? = some n := by
  match n, m with
  | .inner p, .inner q => simp [attributeNodes]
  | .inner p, .attribute owner j =>
    simp only [attributeNodes, List.mem_map, List.mem_finRange, true_and, isAttribute_attribute,
      parent?, Option.some.injEq, Node.inner.injEq]
    constructor
    · rintro ⟨i, hi⟩
      exact (Node.attribute.inj hi).1.symm
    · rintro rfl
      exact ⟨j, rfl⟩
  | .attribute _ _, .inner q => simp [attributeNodes]
  | .attribute _ _, .attribute owner j => simp [attributeNodes, parent?]

/-- The children of a node are what else has it as its parent. -/
theorem mem_children_iff {n m : Node} :
    m ∈ n.children ↔ m.isAttribute = false ∧ m.parent? = some n := by
  match n, m with
  | .inner p, .inner q =>
    rw [children, inner_mem_map, Place.mem_children]
    simp [parent?_inner]
  | .inner p, .attribute owner j => simp [children]
  | .attribute _ _, .inner q => simp [children, parent?_inner]
  | .attribute _ _, .attribute owner j => simp [children]

/-- The descendants of a node are what it is above, attributes left out. -/
theorem mem_descendants_iff {n m : Node} :
    m ∈ n.descendants ↔ m.isAttribute = false ∧ n.Above m := by
  match n, m with
  | .inner p, .inner q =>
    rw [descendants, inner_mem_map, Place.mem_descendants, inner_above_inner]
    simp
  | .inner p, .attribute owner j => simp [descendants]
  | .attribute _ _, m => simp [descendants, not_attribute_above]

/-- What is below a node is a child of the node or of something below it. -/
theorem mem_descendants_iff_exists_child {n m : Node} :
    m ∈ n.descendants ↔ ∃ k, (k = n ∨ k ∈ n.descendants) ∧ m ∈ k.children := by
  simp only [mem_descendants_iff, mem_children_iff]
  constructor
  · rintro ⟨hm, habove⟩
    obtain ⟨k, hk, hkn⟩ := Node.above_iff.mp habove
    refine ⟨k, ?_, hm, hk⟩
    rcases hkn with rfl | hkn
    · exact .inl rfl
    · have hkm : k.Above m := Node.above_iff.mpr ⟨k, hk, .inl rfl⟩
      exact .inr ⟨hkm.isAttribute_eq_false, hkn⟩
  · rintro ⟨k, hkn, hm, hk⟩
    refine ⟨hm, Node.above_iff.mpr ⟨k, hk, ?_⟩⟩
    rcases hkn with rfl | ⟨-, hkn⟩
    · exact .inl rfl
    · exact .inr hkn

theorem mem_ancestors_iff {n m : Node} : m ∈ n.ancestors ↔ m.Above n := by
  match n with
  | .inner p => simp only [ancestors, List.mem_map, above_inner, Place.mem_ancestors, and_comm]
  | .attribute owner i =>
    simp only [ancestors, List.mem_cons, List.mem_map, above_attribute, Place.mem_ancestors]
    constructor
    · rintro (rfl | ⟨p, hp, rfl⟩)
      · exact ⟨owner, rfl, .inl rfl⟩
      · exact ⟨p, rfl, .inr hp⟩
    · rintro ⟨p, rfl, rfl | hp⟩
      · exact .inl rfl
      · exact .inr ⟨p, hp, rfl⟩

/-- Two places have one parent if, as nodes, they have. -/
theorem exists_parent_inner {p q : Place} :
    (∃ n, (inner p).parent? = some n ∧ (inner q).parent? = some n) ↔
      ∃ r, p.parent? = some r ∧ q.parent? = some r := by
  simp only [parent?_inner]
  constructor
  · rintro ⟨n, ⟨r, hp, rfl⟩, ⟨r', hq, hr⟩⟩
    exact ⟨r, hp, Node.inner.inj hr ▸ hq⟩
  · rintro ⟨r, hp, hq⟩
    exact ⟨inner r, ⟨r, hp, rfl⟩, ⟨r, hq, rfl⟩⟩

theorem mem_followingSiblings_iff {n m : Node} :
    m ∈ n.followingSiblings ↔
      n.isAttribute = false ∧ m.isAttribute = false ∧
        (∃ p, n.parent? = some p ∧ m.parent? = some p) ∧ n.Precedes m := by
  match n, m with
  | .inner p, .inner q =>
    rw [followingSiblings, inner_mem_map, Place.mem_followingSiblings, ← exists_parent_inner]
    simp
  | .inner p, .attribute _ _ => simp [followingSiblings]
  | .attribute _ _, m => simp [followingSiblings]

theorem mem_precedingSiblings_iff {n m : Node} :
    m ∈ n.precedingSiblings ↔
      n.isAttribute = false ∧ m.isAttribute = false ∧
        (∃ p, n.parent? = some p ∧ m.parent? = some p) ∧ m.Precedes n := by
  match n, m with
  | .inner p, .inner q =>
    rw [precedingSiblings, inner_mem_map, Place.mem_precedingSiblings, ← exists_parent_inner]
    simp
  | .inner p, .attribute _ _ => simp [precedingSiblings]
  | .attribute _ _, m => simp [precedingSiblings]

/-- What follows a node comes later and is not below it, attributes left out. -/
theorem mem_following_iff {n m : Node} :
    m ∈ n.following ↔
      m.isAttribute = false ∧ m.document = n.document ∧ n.Precedes m ∧ ¬ n.Above m := by
  match n, m with
  | .inner p, .inner q =>
    rw [Node.following, inner_mem_map, mem_following_inner]
    simp
  | .attribute owner i, .inner q =>
    rw [Node.following, inner_mem_map, mem_following_attribute (i := i)]
    simp [not_attribute_above]
  | .inner p, .attribute _ _ => simp [Node.following]
  | .attribute owner i, .attribute _ _ => simp [Node.following]

/-- What precedes a node comes earlier and is not above it, attributes left out. -/
theorem mem_preceding_iff {n m : Node} :
    m ∈ n.preceding ↔
      m.isAttribute = false ∧ m.document = n.document ∧ m.Precedes n ∧ ¬ m.Above n := by
  match n, m with
  | .inner p, .inner q =>
    rw [Node.preceding, inner_mem_map, place, mem_preceding_inner]
    simp
  | .attribute owner i, .inner q =>
    rw [Node.preceding, inner_mem_map, place, mem_preceding_attribute (i := i)]
    simp
  | .inner p, .attribute _ _ => simp [Node.preceding]
  | .attribute owner i, .attribute _ _ => simp [Node.preceding]

/-! ## Lists of relatives in order -/

/-- Places of one tree in the order of the document make a set of nodes. -/
theorem isNodeSet_map_inner {top : Place} {places : List Place} (h : places.Pairwise Place.Before)
    (inside : ∀ p ∈ places, p.top = top) : IsNodeSet (inner top) (places.map inner) := by
  refine .of_rank ?_ ?_
  · intro n hn
    obtain ⟨p, hp, rfl⟩ := List.mem_map.mp hn
    exact congrArg _ (inside p hp)
  · rw [List.pairwise_map]
    exact h.imp fun hab => rank_lt_of_before hab

theorem isNodeSet_reverse_map_inner {top : Place} {places : List Place}
    (h : places.Pairwise fun a b => b.Before a) (inside : ∀ p ∈ places, p.top = top) :
    IsNodeSet (inner top) (places.map inner).reverse := by
  rw [← List.map_reverse]
  exact isNodeSet_map_inner (List.pairwise_reverse.mpr h) fun p hp =>
    inside p (List.mem_reverse.mp hp)

/-- A node may be put before a set if it comes before every node in it. -/
theorem IsNodeSet.cons {top n : Node} {nodes : List Node} (h : IsNodeSet top nodes)
    (hn : n.document = top) (first : ∀ m ∈ nodes, n.rank < m.rank) :
    IsNodeSet top (n :: nodes) := by
  refine .of_rank ?_ (List.pairwise_cons.mpr ⟨first, h.pairwise_rank⟩)
  intro m hm
  rcases List.mem_cons.mp hm with rfl | hm
  · exact hn
  · exact h.inside m hm

theorem IsNodeSet.concat {top n : Node} {nodes : List Node} (h : IsNodeSet top nodes)
    (hn : n.document = top) (last : ∀ m ∈ nodes, m.rank < n.rank) :
    IsNodeSet top (nodes ++ [n]) := by
  refine .of_rank ?_ ?_
  · intro m hm
    rcases List.mem_append.mp hm with hm | hm
    · exact h.inside m hm
    · exact List.mem_singleton.mp hm ▸ hn
  · rw [List.pairwise_append]
    refine ⟨h.pairwise_rank, List.pairwise_singleton _ _, fun m hm k hk => ?_⟩
    exact List.mem_singleton.mp hk ▸ last m hm

theorem isNodeSet_nil (top : Node) : IsNodeSet top [] :=
  ⟨.nil, by simp⟩

/-- What is above a node belongs to its tree and has a smaller rank. -/
theorem Node.Above.document_rank {a n : Node} (h : a.Above n) :
    a.document = n.document ∧ a.rank < n.rank := by
  match n, h with
  | .inner q, h =>
    obtain ⟨p, rfl, hp⟩ := above_inner.mp h
    exact ⟨document_eq_iff.mpr (Eq.symm hp.top_eq), rank_lt_of_before hp.before⟩
  | .attribute owner i, h =>
    obtain ⟨p, rfl, rfl | hp⟩ := above_attribute.mp h
    · refine ⟨rfl, ?_⟩
      simp only [Node.rank]
      omega
    · have := hp.before.rank
      refine ⟨document_eq_iff.mpr (Eq.symm hp.top_eq), ?_⟩
      simp only [Node.rank]
      omega

theorem isNodeSet_descendants (n : Node) : IsNodeSet n.document n.descendants := by
  match n with
  | .inner p =>
    refine isNodeSet_map_inner p.pairwise_withDescendants.tail fun q hq => ?_
    exact Place.top_eq_of_mem_withDescendants (List.mem_of_mem_tail hq)
  | .attribute owner i => exact isNodeSet_nil _

theorem isNodeSet_ancestors (n : Node) : IsNodeSet n.document n.ancestors.reverse := by
  match n with
  | .inner p =>
    exact isNodeSet_reverse_map_inner p.pairwise_ancestors fun q hq =>
      (Place.mem_ancestors.mp hq).top_eq.symm
  | .attribute owner i =>
    show IsNodeSet (inner owner.top) ((owner :: owner.ancestors).map inner).reverse
    refine isNodeSet_reverse_map_inner ?_ ?_
    · exact List.pairwise_cons.mpr
        ⟨fun a ha => (Place.mem_ancestors.mp ha).before, owner.pairwise_ancestors⟩
    · intro q hq
      rcases List.mem_cons.mp hq with rfl | hq
      · rfl
      · exact (Place.mem_ancestors.mp hq).top_eq.symm

theorem isNodeSet_followingSiblings (n : Node) : IsNodeSet n.document n.followingSiblings := by
  match n with
  | .inner p =>
    refine isNodeSet_map_inner (p.pairwise_followingSiblings.imp_of_mem ?_) ?_
    · intro a b ha hb hab
      obtain ⟨r, hp, ha⟩ := Place.parent_of_mem_followingSiblings ha
      obtain ⟨r', hp', hb⟩ := Place.parent_of_mem_followingSiblings hb
      obtain rfl := Option.some.inj (hp.symm.trans hp')
      exact hab.before ha hb a.mem_withDescendants_self b.mem_withDescendants_self
    · intro q hq
      obtain ⟨r, hp, hq⟩ := Place.parent_of_mem_followingSiblings hq
      exact (Place.top_of_parent hq).trans (Place.top_of_parent hp).symm
  | .attribute owner i => exact isNodeSet_nil _

theorem isNodeSet_precedingSiblings (n : Node) :
    IsNodeSet n.document n.precedingSiblings.reverse := by
  match n with
  | .inner p =>
    refine isNodeSet_reverse_map_inner (p.pairwise_precedingSiblings.imp_of_mem ?_) ?_
    · intro a b ha hb hab
      obtain ⟨r, hp, ha⟩ := Place.parent_of_mem_precedingSiblings ha
      obtain ⟨r', hp', hb⟩ := Place.parent_of_mem_precedingSiblings hb
      obtain rfl := Option.some.inj (hp.symm.trans hp')
      exact hab.before hb ha b.mem_withDescendants_self a.mem_withDescendants_self
    · intro q hq
      obtain ⟨r, hp, hq⟩ := Place.parent_of_mem_precedingSiblings hq
      exact (Place.top_of_parent hq).trans (Place.top_of_parent hp).symm
  | .attribute owner i => exact isNodeSet_nil _

theorem isNodeSet_children (n : Node) : IsNodeSet n.document n.children := by
  match n with
  | .inner p =>
    refine isNodeSet_map_inner (p.pairwise_children.imp_of_mem ?_) ?_
    · intro a b ha hb hab
      exact hab.before (Place.mem_children.mp ha) (Place.mem_children.mp hb)
        a.mem_withDescendants_self b.mem_withDescendants_self
    · intro q hq
      exact Place.top_of_parent (Place.mem_children.mp hq)
  | .attribute owner i => exact isNodeSet_nil _

theorem isNodeSet_following (n : Node) : IsNodeSet n.document n.following := by
  match n with
  | .inner p =>
    exact isNodeSet_map_inner p.pairwise_following fun q hq => (Place.mem_following.mp hq).1
  | .attribute owner i =>
    refine isNodeSet_map_inner ?_ ?_
    · refine List.pairwise_append.mpr
        ⟨owner.pairwise_withDescendants.tail, owner.pairwise_following, fun a ha b hb => ?_⟩
      have ha := Place.mem_descendants.mp ha
      obtain ⟨htop, hlim⟩ := Place.mem_following.mp hb
      have := Place.extent_of_above ha
      have := a.rank_add_attributes_lt_limit
      exact Place.before_of_rank_lt (ha.top_eq.trans htop.symm) (by omega)
    · intro q hq
      rcases List.mem_append.mp hq with hq | hq
      · exact (Place.mem_descendants.mp hq).top_eq
      · exact (Place.mem_following.mp hq).1

theorem isNodeSet_preceding (n : Node) : IsNodeSet n.document n.preceding.reverse :=
  isNodeSet_reverse_map_inner n.place.pairwise_preceding fun _ hq => (Place.mem_preceding.mp hq).1

theorem isNodeSet_attributeNodes (n : Node) : IsNodeSet n.document n.attributeNodes := by
  match n with
  | .inner p =>
    refine .of_rank ?_ ?_
    · intro m hm
      obtain ⟨i, -, rfl⟩ := List.mem_map.mp hm
      rfl
    · rw [attributeNodes, List.pairwise_map]
      refine (List.pairwise_lt_finRange _).imp fun {i j} hij => ?_
      simp only [Node.rank]
      have : (i : Nat) < j := hij
      omega
  | .attribute owner i => exact isNodeSet_nil _

end HtmlQuery
