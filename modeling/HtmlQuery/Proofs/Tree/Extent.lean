import HtmlQuery.Proofs.Tree.Family

/-!
# Where subtrees lie in the document

The nodes of a subtree, attributes counted, have consecutive ranks: they begin with the rank of the
place at its top and end before `Place.limit`.  So the position of two places to each other can be
read off four numbers.

`Place.Before` says that a place comes before another one, by rank and by path alike.  It orders the
places of one tree (`Place.before_trichotomy`), so either of the two decides it.  A subtree is
listed in this order (`Place.pairwise_withDescendants`), and it is the part of the tree whose ranks
lie between its own and its limit (`Place.mem_withDescendants_iff_rank`).

The lists around a place follow: everything after its subtree (`Place.mem_following`), everything
that ends before it (`Place.mem_preceding`), its ancestors and its siblings.
-/

namespace HtmlQuery

namespace Place

/-! ## The ranks of a subtree -/

/-- The rank behind the last node of the subtree at a place. -/
def limit (p : Place) : Nat :=
  p.rank + p.focus.weight

/-- The number of siblings before a place. -/
def index (p : Place) : Nat :=
  (p.above.head?.map (·.passed.index)).getD 0

theorem attributes_lt_weight (t : Tree) : t.attributes.length < t.weight := by
  cases t with
  | node label kids =>
    rw [Tree.weight, Tree.attributes, Tree.label]
    omega

theorem rank_add_attributes_lt_limit (p : Place) : p.rank + p.attributes.length < p.limit :=
  Nat.add_lt_add_left (attributes_lt_weight p.focus) _

theorem weightOfForest_append (ts us : List Tree) :
    weightOfForest (ts ++ us) = weightOfForest ts + weightOfForest us := by
  induction ts with
  | nil => simp [weightOfForest]
  | cons t ts ih =>
    rw [List.cons_append, weightOfForest, weightOfForest, ih]
    omega

theorem weightOfForest_reverse (ts : List Tree) :
    weightOfForest ts.reverse = weightOfForest ts := by
  induction ts with
  | nil => rfl
  | cons t ts ih =>
    rw [List.reverse_cons, weightOfForest_append, ih, weightOfForest, weightOfForest,
      weightOfForest]
    omega

theorem weight_eq (t : Tree) : t.weight = 1 + t.attributes.length + weightOfForest t.children := by
  cases t with
  | node label kids => rfl

/-- A subtree lies behind the attributes of its parent and ends with it or before. -/
theorem extent_of_parent {p q : Place} (h : p.parent? = some q) :
    q.rank + q.attributes.length < p.rank ∧ p.limit ≤ q.limit := by
  obtain ⟨id, t, _ | ⟨level, above⟩, fits⟩ := p
  · simp [parent?] at h
  · obtain rfl := Option.some.inj h
    have hr := fits.splits.rank
    have hw := weight_eq level.parent
    rw [fits.splits.children, List.reverseAux_eq, weightOfForest_append, weightOfForest_reverse,
      weightOfForest] at hw
    simp only [rank, limit, attributes, rankOf, hr]
    omega

theorem extent_of_above {p q : Place} (h : p.Above q) :
    p.rank + p.attributes.length < q.rank ∧ q.limit ≤ p.limit := by
  induction h with
  | single h => exact extent_of_parent h
  | tail _ h ih =>
    have := extent_of_parent h
    omega

theorem extent_of_mem {p q : Place} (h : q ∈ p.withDescendants) :
    p.rank ≤ q.rank ∧ q.limit ≤ p.limit := by
  rcases mem_withDescendants.mp h with rfl | h
  · omega
  · have := extent_of_above h
    omega

theorem path_of_parent {p q : Place} (h : p.parent? = some q) : p.path = q.path ++ [p.index] := by
  obtain ⟨id, t, _ | ⟨level, above⟩, fits⟩ := p
  · simp [parent?] at h
  · obtain rfl := Option.some.inj h
    simp [path, indexesUp, index]

theorem path_of_above {p q : Place} (h : p.Above q) : ∃ i is, q.path = p.path ++ i :: is := by
  induction h with
  | @single q h => exact ⟨q.index, [], path_of_parent h⟩
  | @tail b c _ h ih =>
    obtain ⟨i, is, hb⟩ := ih
    exact ⟨i, is ++ [c.index], by rw [path_of_parent h, hb]; simp⟩

/-! ## Siblings in order -/

/-- The extents of siblings do not overlap, and their indexes ascend. -/
structure Separated (a b : Place) : Prop where
  /-- The one ends before the other begins. -/
  limit : a.limit ≤ b.rank
  /-- The one stands before the other. -/
  index : a.index < b.index

theorem separated_of_mem_childrenFrom {id : TreeId} {parent : Tree} {above : List Level}
    {fits : Fits parent above} {passed : Passed} {rest : List Tree}
    (h : Splits above parent passed rest) {c : Place} (hc : c ∈ childrenFrom id fits passed rest h) :
    passed.rank ≤ c.rank ∧ passed.index ≤ c.index := by
  induction rest generalizing passed with
  | nil => simp [childrenFrom] at hc
  | cons t after ih =>
    rw [childrenFrom, List.mem_cons] at hc
    rcases hc with rfl | hc
    · exact ⟨Nat.le_refl _, Nat.le_refl _⟩
    · have := ih h.push hc
      simp only [Passed.push] at this
      omega

theorem pairwise_childrenFrom {id : TreeId} {parent : Tree} {above : List Level}
    {fits : Fits parent above} {passed : Passed} {rest : List Tree}
    (h : Splits above parent passed rest) :
    (childrenFrom id fits passed rest h).Pairwise Separated := by
  induction rest generalizing passed with
  | nil => exact .nil
  | cons t after ih =>
    rw [childrenFrom, List.pairwise_cons]
    refine ⟨fun c hc => ?_, ih h.push⟩
    obtain ⟨hr, hi⟩ := separated_of_mem_childrenFrom h.push hc
    exact ⟨hr, hi⟩

theorem pairwise_children (p : Place) : p.children.Pairwise Separated := by
  rw [children_eq]
  exact pairwise_childrenFrom _

theorem pairwise_followingSiblings (p : Place) : p.followingSiblings.Pairwise Separated := by
  cases h : p.parent? with
  | none => simp [(siblings_of_parent_none h).1]
  | some r =>
    have hpair := r.pairwise_children
    rw [children_split h] at hpair
    exact (List.pairwise_cons.mp (List.pairwise_append.mp hpair).2.1).2

theorem pairwise_precedingSiblings (p : Place) :
    p.precedingSiblings.Pairwise fun a b => b.Separated a := by
  cases h : p.parent? with
  | none => simp [(siblings_of_parent_none h).2]
  | some r =>
    have hpair := r.pairwise_children
    rw [children_split h] at hpair
    exact List.pairwise_reverse.mp (List.pairwise_append.mp hpair).1

theorem separated_of_mem_followingSiblings {p q : Place} (h : q ∈ p.followingSiblings) :
    p.Separated q := by
  obtain ⟨r, hp, -⟩ := parent_of_mem_followingSiblings h
  have hpair := r.pairwise_children
  rw [children_split hp] at hpair
  exact (List.pairwise_cons.mp (List.pairwise_append.mp hpair).2.1).1 q h

theorem separated_of_mem_precedingSiblings {p q : Place} (h : q ∈ p.precedingSiblings) :
    q.Separated p := by
  obtain ⟨r, hp, -⟩ := parent_of_mem_precedingSiblings h
  have hpair := r.pairwise_children
  rw [children_split hp] at hpair
  exact hpair.rel_of_mem_append (List.mem_reverse.mpr h) List.mem_cons_self

/-! ## The order of places -/

/-- A place comes before another one in the document. -/
structure Before (a b : Place) : Prop where
  /-- The other one comes behind the attributes of the one. -/
  rank : a.rank + a.attributes.length < b.rank
  /-- The path of the one is the smaller one. -/
  path : a.path < b.path

/-- A place comes before everything below it. -/
theorem Above.before {p q : Place} (h : p.Above q) : p.Before q := by
  obtain ⟨i, is, hpath⟩ := path_of_above h
  refine ⟨(extent_of_above h).1, ?_⟩
  calc p.path = p.path ++ [] := (List.append_nil _).symm
    _ < p.path ++ i :: is := List.append_left_lt (List.nil_lt_cons i is)
    _ = q.path := hpath.symm

/-- Where siblings are in order, all of their subtrees are. -/
theorem Separated.before {a b r x y : Place} (h : a.Separated b) (ha : a.parent? = some r)
    (hb : b.parent? = some r) (hx : x ∈ a.withDescendants) (hy : y ∈ b.withDescendants) :
    x.Before y := by
  have tail : ∀ {p q : Place}, q ∈ p.withDescendants → ∃ is, q.path = p.path ++ is := by
    intro p q hq
    rcases mem_withDescendants.mp hq with rfl | hq
    · exact ⟨[], by simp⟩
    · obtain ⟨i, is, hq⟩ := path_of_above hq
      exact ⟨i :: is, hq⟩
  constructor
  · have := rank_add_attributes_lt_limit x
    have := (extent_of_mem hx).2
    have := (extent_of_mem hy).1
    have := h.limit
    omega
  · obtain ⟨is, hx⟩ := tail hx
    obtain ⟨js, hy⟩ := tail hy
    rw [hx, hy, path_of_parent ha, path_of_parent hb, List.append_assoc, List.append_assoc]
    exact List.append_left_lt (List.cons_lt_cons_iff.mpr (.inl h.index))

theorem pairwise_flatMap_withDescendants {places : List Place} {r : Place}
    (parent : ∀ c ∈ places, c.parent? = some r) (separated : places.Pairwise Separated)
    (inner : ∀ c ∈ places, c.withDescendants.Pairwise Before) :
    (places.flatMap withDescendants).Pairwise Before := by
  refine List.pairwise_flatMap.mpr ⟨inner, separated.imp_of_mem ?_⟩
  intro a b ha hb h x hx y hy
  exact h.before (parent a ha) (parent b hb) hx hy

/-- A subtree is listed in the order of the document. -/
theorem pairwise_withDescendants (p : Place) : p.withDescendants.Pairwise Before := by
  induction p using induction_on_children with
  | step p ih =>
    rw [withDescendants_eq, List.pairwise_cons]
    constructor
    · intro q hq
      rw [← descendants_eq, mem_descendants] at hq
      exact hq.before
    · exact pairwise_flatMap_withDescendants (fun c hc => mem_children.mp hc) p.pairwise_children ih

/-- Of two places of one tree one comes before the other, or they are the same. -/
theorem before_trichotomy {a b : Place} (h : a.top = b.top) : a = b ∨ a.Before b ∨ b.Before a := by
  have ha := mem_withDescendants_top a
  have hb := mem_withDescendants_top b
  rw [← h] at hb
  have : Std.Symm fun a b : Place => a = b ∨ a.Before b ∨ b.Before a := by
    refine ⟨fun x y h => ?_⟩
    rcases h with rfl | h | h
    · exact .inl rfl
    · exact .inr (.inr h)
    · exact .inr (.inl h)
  exact List.Pairwise.forall_of_forall (R := fun a b => a = b ∨ a.Before b ∨ b.Before a)
    (fun _ _ => .inl rfl) (a.top.pairwise_withDescendants.imp fun h => .inr (.inl h)) ha hb

theorem before_of_rank_lt {a b : Place} (h : a.top = b.top) (hr : a.rank < b.rank) :
    a.Before b := by
  rcases before_trichotomy h with rfl | h | h
  · omega
  · exact h
  · have := h.rank
    omega

theorem eq_of_rank_eq {a b : Place} (h : a.top = b.top) (hr : a.rank = b.rank) : a = b := by
  rcases before_trichotomy h with h | h | h
  · exact h
  · have := h.rank
    omega
  · have := h.rank
    omega

/-- The subtree at a place holds the places of the tree whose ranks lie in its extent. -/
theorem mem_withDescendants_iff_rank {p q : Place} (h : q.top = p.top) :
    q ∈ p.withDescendants ↔ p.rank ≤ q.rank ∧ q.rank < p.limit := by
  constructor
  · intro hq
    have := extent_of_mem hq
    have := rank_add_attributes_lt_limit q
    omega
  · rintro ⟨hlo, hhi⟩
    induction p using induction_on_parent with
    | top p hp =>
      rw [← top_of_parent_none hp, ← h]
      exact mem_withDescendants_top q
    | child p r hp ih =>
      have hext := extent_of_parent hp
      have hq := ih (h.trans (top_of_parent hp)) (by omega) (by omega)
      rw [withDescendants_eq, List.mem_cons, List.mem_flatMap] at hq
      rcases hq with rfl | ⟨c, hc, hq⟩
      · omega
      · have hc' := extent_of_mem hq
        have := rank_add_attributes_lt_limit q
        rcases sibling_cases hp (mem_children.mp hc) with hs | rfl | hs
        · have := (separated_of_mem_precedingSiblings hs).limit
          omega
        · exact hq
        · have := (separated_of_mem_followingSiblings hs).limit
          omega

theorem above_iff_rank {p q : Place} (h : q.top = p.top) :
    p.Above q ↔ p.rank < q.rank ∧ q.rank < p.limit := by
  constructor
  · intro hq
    have := extent_of_above hq
    have := rank_add_attributes_lt_limit q
    omega
  · rintro ⟨hlo, hhi⟩
    rcases mem_withDescendants.mp ((mem_withDescendants_iff_rank h).mpr ⟨hlo.le, hhi⟩) with
      rfl | hq
    · omega
    · exact hq

/-! ## The lists around a place -/

theorem following_of_parent {p q : Place} (h : p.parent? = some q) :
    p.following = p.followingSiblings.flatMap withDescendants ++ q.following := by
  rw [following, ancestors_of_parent h]
  rfl

theorem following_of_parent_none {p : Place} (h : p.parent? = none) : p.following = [] := by
  simp [following, ancestors_of_parent_none h, (siblings_of_parent_none h).1]

theorem preceding_of_parent {p q : Place} (h : p.parent? = some q) :
    p.preceding =
      p.precedingSiblings.flatMap (·.withDescendants.reverse) ++ q.preceding := by
  rw [preceding, ancestors_of_parent h]
  rfl

theorem preceding_of_parent_none {p : Place} (h : p.parent? = none) : p.preceding = [] := by
  simp [preceding, ancestors_of_parent_none h, (siblings_of_parent_none h).2]

theorem mem_flatMap_followingSiblings {p q r : Place} (hp : p.parent? = some r)
    (htop : q.top = p.top) :
    q ∈ p.followingSiblings.flatMap withDescendants ↔ p.limit ≤ q.rank ∧ q.rank < r.limit := by
  have hext := extent_of_parent hp
  have := rank_add_attributes_lt_limit p
  rw [List.mem_flatMap]
  constructor
  · rintro ⟨c, hc, hq⟩
    obtain ⟨r', hp', hc'⟩ := parent_of_mem_followingSiblings hc
    obtain rfl := Option.some.inj (hp.symm.trans hp')
    have := (separated_of_mem_followingSiblings hc).limit
    have := extent_of_parent hc'
    have := extent_of_mem hq
    have := rank_add_attributes_lt_limit q
    omega
  · rintro ⟨hlo, hhi⟩
    have hq := (above_iff_rank (htop.trans (top_of_parent hp))).mpr ⟨by omega, hhi⟩
    obtain ⟨c, hc, hq⟩ := List.mem_flatMap.mp (descendants_eq r ▸ mem_descendants.mpr hq)
    refine ⟨c, ?_, hq⟩
    have := extent_of_mem hq
    have := rank_add_attributes_lt_limit q
    rcases sibling_cases hp (mem_children.mp hc) with hs | rfl | hs
    · have := (separated_of_mem_precedingSiblings hs).limit
      omega
    · omega
    · exact hs

theorem mem_flatMap_precedingSiblings {p q r : Place} (hp : p.parent? = some r)
    (htop : q.top = p.top) :
    q ∈ p.precedingSiblings.flatMap (·.withDescendants.reverse) ↔
      r.rank < q.rank ∧ q.limit ≤ p.rank := by
  have hext := extent_of_parent hp
  have := rank_add_attributes_lt_limit p
  have hlt := rank_add_attributes_lt_limit q
  simp only [List.mem_flatMap, List.mem_reverse]
  constructor
  · rintro ⟨c, hc, hq⟩
    obtain ⟨r', hp', hc'⟩ := parent_of_mem_precedingSiblings hc
    obtain rfl := Option.some.inj (hp.symm.trans hp')
    have := (separated_of_mem_precedingSiblings hc).limit
    have := extent_of_parent hc'
    have := extent_of_mem hq
    omega
  · rintro ⟨hlo, hhi⟩
    have hq := (above_iff_rank (htop.trans (top_of_parent hp))).mpr ⟨hlo, by omega⟩
    obtain ⟨c, hc, hq⟩ := List.mem_flatMap.mp (descendants_eq r ▸ mem_descendants.mpr hq)
    refine ⟨c, ?_, hq⟩
    have := extent_of_mem hq
    rcases sibling_cases hp (mem_children.mp hc) with hs | rfl | hs
    · exact hs
    · omega
    · have := (separated_of_mem_followingSiblings hs).limit
      omega

/-- What follows a place is what comes behind its subtree. -/
theorem mem_following {p q : Place} : q ∈ p.following ↔ q.top = p.top ∧ p.limit ≤ q.rank := by
  induction p using induction_on_parent with
  | top p h =>
    rw [following_of_parent_none h]
    simp only [List.not_mem_nil, false_iff, not_and, Nat.not_le]
    intro htop
    have hq := mem_withDescendants_top q
    rw [htop, top_of_parent_none h] at hq
    exact ((mem_withDescendants_iff_rank htop).mp hq).2
  | child p r h ih =>
    rw [following_of_parent h, List.mem_append, ih, ← top_of_parent h]
    constructor
    · rintro (hq | ⟨htop, hq⟩)
      · have htop : q.top = p.top := by
          obtain ⟨c, hc, hq⟩ := List.mem_flatMap.mp hq
          obtain ⟨r', hp', hc'⟩ := parent_of_mem_followingSiblings hc
          rw [top_eq_of_mem_withDescendants hq, top_of_parent hc', top_of_parent hp']
        exact ⟨htop, ((mem_flatMap_followingSiblings h htop).mp hq).1⟩
      · exact ⟨htop, (extent_of_parent h).2.trans hq⟩
    · rintro ⟨htop, hq⟩
      rcases Nat.lt_or_ge q.rank r.limit with hlt | hge
      · exact .inl ((mem_flatMap_followingSiblings h htop).mpr ⟨hq, hlt⟩)
      · exact .inr ⟨htop, hge⟩

/-- What precedes a place is what ends before it. -/
theorem mem_preceding {p q : Place} : q ∈ p.preceding ↔ q.top = p.top ∧ q.limit ≤ p.rank := by
  induction p using induction_on_parent with
  | top p h =>
    rw [preceding_of_parent_none h]
    simp only [List.not_mem_nil, false_iff, not_and, Nat.not_le]
    intro htop
    have hq := mem_withDescendants_top q
    rw [htop, top_of_parent_none h] at hq
    have := (extent_of_mem hq).1
    have := rank_add_attributes_lt_limit q
    omega
  | child p r h ih =>
    rw [preceding_of_parent h, List.mem_append, ih, ← top_of_parent h]
    have hext := extent_of_parent h
    have hlt := rank_add_attributes_lt_limit q
    constructor
    · rintro (hq | ⟨htop, hq⟩)
      · have htop : q.top = p.top := by
          obtain ⟨c, hc, hq⟩ := List.mem_flatMap.mp hq
          obtain ⟨r', hp', hc'⟩ := parent_of_mem_precedingSiblings hc
          rw [top_eq_of_mem_withDescendants (List.mem_reverse.mp hq), top_of_parent hc',
            top_of_parent hp']
        exact ⟨htop, ((mem_flatMap_precedingSiblings h htop).mp hq).2⟩
      · exact ⟨htop, by omega⟩
    · rintro ⟨htop, hq⟩
      rcases Nat.lt_or_ge r.rank q.rank with hr | hr
      · exact .inl ((mem_flatMap_precedingSiblings h htop).mpr ⟨hr, hq⟩)
      · refine .inr ⟨htop, ?_⟩
        -- A place that begins with `r` or before it and ends inside of `r` ends before `r` begins.
        by_contra hlim
        have hmem := (mem_withDescendants_iff_rank (htop.trans (top_of_parent h)).symm).mpr
          ⟨hr, Nat.not_le.mp hlim⟩
        have := extent_of_mem hmem
        have := rank_add_attributes_lt_limit p
        omega

/-- The ancestors of a place are listed against the order of the document. -/
theorem pairwise_ancestors (p : Place) : p.ancestors.Pairwise fun a b => b.Before a := by
  induction p using induction_on_parent with
  | top p h =>
    rw [ancestors_of_parent_none h]
    exact .nil
  | child p q h ih =>
    rw [ancestors_of_parent h, List.pairwise_cons]
    exact ⟨fun a ha => (mem_ancestors.mp ha).before, ih⟩

/-- What follows a place is listed in the order of the document. -/
theorem pairwise_following (p : Place) : p.following.Pairwise Before := by
  induction p using induction_on_parent with
  | top p h =>
    rw [following_of_parent_none h]
    exact .nil
  | child p q h ih =>
    rw [following_of_parent h, List.pairwise_append]
    refine ⟨pairwise_flatMap_withDescendants (r := q) ?_ p.pairwise_followingSiblings
      fun c _ => c.pairwise_withDescendants, ih, ?_⟩
    · intro c hc
      obtain ⟨r, hp, hc⟩ := parent_of_mem_followingSiblings hc
      rwa [h.symm.trans hp]
    · intro x hx y hy
      obtain ⟨hy, hlim⟩ := mem_following.mp hy
      obtain ⟨c, hc, hx'⟩ := List.mem_flatMap.mp hx
      obtain ⟨r, hp, hc⟩ := parent_of_mem_followingSiblings hc
      have htop : x.top = p.top := by
        rw [top_eq_of_mem_withDescendants hx', top_of_parent hc, top_of_parent hp]
      have hx := (mem_flatMap_followingSiblings h htop).mp hx
      exact before_of_rank_lt (by rw [htop, hy, top_of_parent h]) (by omega)

/-- What precedes a place is listed against the order of the document. -/
theorem pairwise_preceding (p : Place) : p.preceding.Pairwise fun a b => b.Before a := by
  induction p using induction_on_parent with
  | top p h =>
    rw [preceding_of_parent_none h]
    exact .nil
  | child p q h ih =>
    rw [preceding_of_parent h, List.pairwise_append]
    refine ⟨List.pairwise_flatMap.mpr ⟨?_, ?_⟩, ih, ?_⟩
    · intro c _
      exact List.pairwise_reverse.mpr c.pairwise_withDescendants
    · refine p.pairwise_precedingSiblings.imp_of_mem ?_
      intro a b ha hb hab x hx y hy
      obtain ⟨r, hp, ha⟩ := parent_of_mem_precedingSiblings ha
      obtain ⟨r', hp', hb⟩ := parent_of_mem_precedingSiblings hb
      obtain rfl := Option.some.inj (hp.symm.trans hp')
      exact hab.before hb ha (List.mem_reverse.mp hy) (List.mem_reverse.mp hx)
    · intro x hx y hy
      obtain ⟨hy, hlim⟩ := mem_preceding.mp hy
      obtain ⟨c, hc, hx'⟩ := List.mem_flatMap.mp hx
      obtain ⟨r, hp, hc⟩ := parent_of_mem_precedingSiblings hc
      have htop : x.top = p.top := by
        rw [top_eq_of_mem_withDescendants (List.mem_reverse.mp hx'), top_of_parent hc,
          top_of_parent hp]
      have hx := (mem_flatMap_precedingSiblings h htop).mp hx
      have := rank_add_attributes_lt_limit y
      exact before_of_rank_lt (by rw [htop, hy, top_of_parent h]) (by omega)

end Place

end HtmlQuery
