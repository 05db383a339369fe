import HtmlQuery.Proofs.Tree.Extent
import HtmlQuery.Tree.Order

/-!
# Document order by addresses and by ranks

`Node.compare?` reads the order of two nodes off their addresses, `Node.rank` counts nodes.  On one
tree the two agree (`Node.compare?_eq_compare_rank`), and a rank belongs to one node only
(`Node.eq_of_rank_eq`).

`IsNodeSet` is the invariant of node-sets: nodes of one tree, in document order, each of them once.
A node-set is determined by its members (`IsNodeSet.ext`), and `sortedByRank` makes one of any nodes
of a tree (`isNodeSet_sortedByRank`) without losing or adding any (`mem_sortedByRank`).
-/

namespace HtmlQuery

/-! ## Addresses -/

namespace Address

theorem compareFrom_self (a b : Option Nat) (path : List Nat) :
    compareFrom a b path path = compareAttribute a b := by
  induction path with
  | nil => rfl
  | cons i is ih => rw [compareFrom, compare_eq_iff_eq.mpr rfl, Ordering.eq_then, ih]

theorem compareFrom_of_lt {a b : Option Nat} {is js : List Nat} (h : is < js) :
    compareFrom a b is js = .lt := by
  induction is generalizing js with
  | nil =>
    cases js with
    | nil => exact absurd h (List.lt_irrefl [])
    | cons j js => rfl
  | cons i is ih =>
    cases js with
    | nil => exact absurd h (List.not_lt_nil _)
    | cons j js =>
      rcases List.cons_lt_cons_iff.mp h with hij | ⟨rfl, hlt⟩
      · rw [compareFrom, compare_lt_iff_lt.mpr hij, Ordering.lt_then]
      · rw [compareFrom, compare_eq_iff_eq.mpr rfl, Ordering.eq_then, ih hlt]

theorem compareFrom_of_gt {a b : Option Nat} {is js : List Nat} (h : js < is) :
    compareFrom a b is js = .gt := by
  induction is generalizing js with
  | nil => exact absurd h (List.not_lt_nil _)
  | cons i is ih =>
    cases js with
    | nil => rfl
    | cons j js =>
      rcases List.cons_lt_cons_iff.mp h with hij | ⟨rfl, hlt⟩
      · rw [compareFrom, compare_gt_iff_gt.mpr hij, Ordering.gt_then]
      · rw [compareFrom, compare_eq_iff_eq.mpr rfl, Ordering.eq_then, ih hlt]

end Address

namespace Node

/-! ## Nodes of one tree -/

theorem document_eq_iff {a b : Node} : a.document = b.document ↔ a.place.top = b.place.top :=
  Node.inner.injEq _ _ ▸ Iff.rfl

theorem tree_eq_of_document_eq {a b : Node} (h : a.document = b.document) : a.tree = b.tree := by
  rw [tree, tree, ← Place.tree_top a.place, ← Place.tree_top b.place, document_eq_iff.mp h]

/-- A node has the rank of its place or that of one of its attributes. -/
theorem rank_bounds (n : Node) :
    n.place.rank ≤ n.rank ∧ n.rank ≤ n.place.rank + n.place.attributes.length := by
  match n with
  | .inner p => exact ⟨Nat.le_refl _, Nat.le_add_right _ _⟩
  | .attribute owner i =>
    have := i.isLt
    simp only [rank, place]
    omega

theorem rank_lt_of_before {a b : Node} (h : a.place.Before b.place) : a.rank < b.rank := by
  have := a.rank_bounds
  have := b.rank_bounds
  have := h.rank
  omega

/-- At one place the order of the attributes decides. -/
theorem compareAttribute_eq {a b : Node} (h : a.place = b.place) :
    Address.compareAttribute a.attributeIndex? b.attributeIndex? = compare a.rank b.rank := by
  match a, b, h with
  | .inner p, .inner _, rfl => exact (compare_eq_iff_eq.mpr rfl).symm
  | .inner p, .attribute _ j, rfl =>
    refine (compare_lt_iff_lt.mpr ?_).symm
    simp only [rank]
    omega
  | .attribute owner i, .inner _, rfl =>
    refine (compare_gt_iff_gt.mpr ?_).symm
    simp only [rank]
    omega
  | .attribute owner i, .attribute _ j, rfl =>
    simp only [attributeIndex?, Address.compareAttribute, rank]
    rcases Nat.lt_trichotomy i j with hij | hij | hij
    · rw [compare_lt_iff_lt.mpr hij, compare_lt_iff_lt.mpr (by omega)]
    · rw [compare_eq_iff_eq.mpr hij, compare_eq_iff_eq.mpr (by omega)]
    · rw [compare_gt_iff_gt.mpr hij, compare_gt_iff_gt.mpr (by omega)]

/-- The order of two nodes of one tree is that of their ranks. -/
theorem compare?_eq_compare_rank {a b : Node} (h : a.document = b.document) :
    a.compare? b = some (compare a.rank b.rank) := by
  rw [compare?, if_pos (tree_eq_of_document_eq h), Address.order]
  congr 1
  rcases Place.before_trichotomy (document_eq_iff.mp h) with he | hlt | hgt
  · rw [address, address, he, Address.compareFrom_self, compareAttribute_eq he]
  · rw [address, address, Address.compareFrom_of_lt hlt.path,
      compare_lt_iff_lt.mpr (rank_lt_of_before hlt)]
  · rw [address, address, Address.compareFrom_of_gt hgt.path,
      compare_gt_iff_gt.mpr (rank_lt_of_before hgt)]

/-- A rank belongs to one node of a tree only. -/
theorem eq_of_rank_eq {a b : Node} (h : a.document = b.document) (hr : a.rank = b.rank) :
    a = b := by
  rcases Place.before_trichotomy (document_eq_iff.mp h) with he | hlt | hgt
  · -- At one place the rank tells an element from its attributes and these from each other.
    match a, b, he with
    | .inner p, .inner _, rfl => rfl
    | .inner p, .attribute _ j, rfl =>
      simp only [rank] at hr
      omega
    | .attribute owner i, .inner _, rfl =>
      simp only [rank] at hr
      omega
    | .attribute owner i, .attribute _ j, rfl =>
      simp only [rank] at hr
      exact congrArg _ (Fin.ext (by omega))
  · exact absurd hr (rank_lt_of_before hlt).ne
  · exact absurd hr (rank_lt_of_before hgt).ne'

/-- A node comes before another one of the same tree. -/
def Precedes (a b : Node) : Prop :=
  a.compare? b = some .lt

theorem precedes_iff_rank {a b : Node} (h : a.document = b.document) :
    a.Precedes b ↔ a.rank < b.rank := by
  rw [Precedes, compare?_eq_compare_rank h, Option.some.injEq, compare_lt_iff_lt]

/-- The test for equal handles finds out whether two nodes of a tree are the same. -/
theorem same_iff_eq {a b : Node} (h : a.document = b.document) : a.same b = true ↔ a = b := by
  constructor
  · intro hs
    simp only [same, Bool.and_eq_true, beq_iff_eq] at hs
    refine eq_of_rank_eq h (compare_eq_iff_eq.mp (Option.some.inj ?_))
    rw [← compare?_eq_compare_rank h, compare?, if_pos hs.1, hs.2, Address.order,
      Address.compareFrom_self]
    cases b.address.attributeIndex with
    | none => rfl
    | some i => exact congrArg some (compare_eq_iff_eq.mpr rfl)
  · rintro rfl
    simp [same]

end Node

/-! ## Node-sets -/

/-- The nodes of a list come one before the other in the document. -/
def Ascending (nodes : List Node) : Prop :=
  nodes.Pairwise Node.Precedes

/-- Nodes of the tree with a given top, in document order, each of them once. -/
structure IsNodeSet (top : Node) (nodes : List Node) : Prop where
  /-- They are in order. -/
  ascending : Ascending nodes
  /-- They belong to the tree. -/
  inside : ∀ n ∈ nodes, n.document = top

namespace IsNodeSet

variable {top : Node} {nodes other : List Node}

theorem pairwise_rank (h : IsNodeSet top nodes) : nodes.Pairwise fun a b => a.rank < b.rank := by
  refine h.ascending.imp_of_mem ?_
  intro a b ha hb hab
  exact (Node.precedes_iff_rank ((h.inside a ha).trans (h.inside b hb).symm)).mp hab

theorem of_rank (inside : ∀ n ∈ nodes, n.document = top)
    (h : nodes.Pairwise fun a b => a.rank < b.rank) : IsNodeSet top nodes := by
  refine ⟨h.imp_of_mem ?_, inside⟩
  intro a b ha hb hab
  exact (Node.precedes_iff_rank ((inside a ha).trans (inside b hb).symm)).mpr hab

theorem nodup (h : IsNodeSet top nodes) : nodes.Nodup :=
  h.pairwise_rank.imp fun hab he => absurd (he ▸ hab) (Nat.lt_irrefl _)

theorem sublist (h : IsNodeSet top nodes) (hs : other.Sublist nodes) : IsNodeSet top other :=
  ⟨h.ascending.sublist hs, fun n hn => h.inside n (hs.subset hn)⟩

theorem singleton {n : Node} (h : n.document = top) : IsNodeSet top [n] :=
  ⟨List.pairwise_singleton _ _, fun _ hm => List.mem_singleton.mp hm ▸ h⟩

/-- A node-set is determined by its members. -/
theorem ext (h : IsNodeSet top nodes) (h' : IsNodeSet top other)
    (hmem : ∀ n, n ∈ nodes ↔ n ∈ other) : nodes = other := by
  refine List.Perm.eq_of_pairwise ?_ h.pairwise_rank h'.pairwise_rank
    ((List.perm_ext_iff_of_nodup h.nodup h'.nodup).mpr hmem)
  intro a b _ _ hab hba
  exact absurd (hab.trans hba) (Nat.lt_irrefl _)

end IsNodeSet

/-! ## Sorting -/

section Dedup

variable {α : Type}

theorem dedupByKey_sublist (xs : List (Nat × α)) : (dedupByKey xs).Sublist xs := by
  fun_induction dedupByKey xs with
  | case1 => exact .slnil
  | case2 a => exact .refl _
  | case3 a b rest _ ih =>
    exact ih.trans (.cons_cons a (List.sublist_cons_self b rest))
  | case4 a b rest _ ih => exact .cons_cons a ih

/-- Of every key some pair is kept. -/
theorem exists_mem_dedupByKey {xs : List (Nat × α)} {a : Nat × α} (h : a ∈ xs) :
    ∃ b ∈ dedupByKey xs, b.1 = a.1 := by
  fun_induction dedupByKey xs generalizing a with
  | case1 => simp at h
  | case2 b => exact ⟨a, h, rfl⟩
  | case3 b c rest hkey ih =>
    rcases List.mem_cons.mp h with rfl | h
    · exact ih List.mem_cons_self
    · rcases List.mem_cons.mp h with rfl | h
      · obtain ⟨d, hd, he⟩ := ih List.mem_cons_self
        exact ⟨d, hd, he.trans (beq_iff_eq.mp hkey)⟩
      · exact ih (List.mem_cons_of_mem b h)
  | case4 b c rest _ ih =>
    rcases List.mem_cons.mp h with rfl | h
    · exact ⟨a, List.mem_cons_self, rfl⟩
    · obtain ⟨d, hd, he⟩ := ih h
      exact ⟨d, List.mem_cons_of_mem b hd, he⟩

/-- Among sorted pairs no key is kept twice. -/
theorem pairwise_dedupByKey {xs : List (Nat × α)} (h : xs.Pairwise fun a b => a.1 ≤ b.1) :
    (dedupByKey xs).Pairwise fun a b => a.1 < b.1 := by
  fun_induction dedupByKey xs with
  | case1 => exact .nil
  | case2 a => exact List.pairwise_singleton _ _
  | case3 a b rest _ ih => exact ih (h.sublist (.cons_cons a (List.sublist_cons_self b rest)))
  | case4 a b rest hkey ih =>
    obtain ⟨hfirst, hrest⟩ := List.pairwise_cons.mp h
    refine List.pairwise_cons.mpr ⟨fun c hc => ?_, ih hrest⟩
    have hab : a.1 < b.1 :=
      Nat.lt_of_le_of_ne (hfirst b List.mem_cons_self) fun he => hkey (beq_iff_eq.mpr he)
    rcases List.mem_cons.mp ((dedupByKey_sublist _).subset hc) with rfl | hc
    · exact hab
    · exact hab.trans_le ((List.pairwise_cons.mp hrest).1 c hc)

end Dedup

variable {top : Node} {nodes : List Node}

/-- The nodes of a list with their ranks, sorted by these. -/
theorem mem_rankedSort {a : Nat × Node} :
    a ∈ (nodes.map fun n => (n.rank, n)).mergeSort (fun a b => a.1 ≤ b.1) ↔
      a.2 ∈ nodes ∧ a.1 = a.2.rank := by
  rw [List.mem_mergeSort, List.mem_map]
  constructor
  · rintro ⟨n, hn, rfl⟩
    exact ⟨hn, rfl⟩
  · rintro ⟨hn, hr⟩
    exact ⟨a.2, hn, Prod.ext hr.symm rfl⟩

/-- Sorting neither loses nor adds a node. -/
theorem mem_sortedByRank (inside : ∀ n ∈ nodes, n.document = top) {n : Node} :
    n ∈ sortedByRank nodes ↔ n ∈ nodes := by
  rw [sortedByRank, List.mem_map]
  constructor
  · rintro ⟨a, ha, rfl⟩
    exact (mem_rankedSort.mp ((dedupByKey_sublist _).subset ha)).1
  · intro hn
    obtain ⟨b, hb, he⟩ := exists_mem_dedupByKey (mem_rankedSort (a := (n.rank, n)).mpr ⟨hn, rfl⟩)
    obtain ⟨hmem, hrank⟩ := mem_rankedSort.mp ((dedupByKey_sublist _).subset hb)
    refine ⟨b, hb, Node.eq_of_rank_eq ((inside _ hmem).trans (inside n hn).symm) ?_⟩
    rw [← hrank, he]

/-- Sorted nodes of a tree are a node-set. -/
theorem isNodeSet_sortedByRank (inside : ∀ n ∈ nodes, n.document = top) :
    IsNodeSet top (sortedByRank nodes) := by
  refine .of_rank (fun n hn => inside n ((mem_sortedByRank inside).mp hn)) ?_
  have sorted : ((nodes.map fun n => (n.rank, n)).mergeSort fun a b => a.1 ≤ b.1).Pairwise
      fun a b => decide (a.1 ≤ b.1) = true := by
    refine List.pairwise_mergeSort ?_ ?_ _
    · simp only [decide_eq_true_eq]
      omega
    · simp only [Bool.or_eq_true, decide_eq_true_eq]
      omega
  rw [sortedByRank, List.pairwise_map]
  refine (pairwise_dedupByKey (sorted.imp of_decide_eq_true)).imp_of_mem ?_
  intro a b ha hb hab
  rw [← (mem_rankedSort.mp ((dedupByKey_sublist _).subset ha)).2,
    ← (mem_rankedSort.mp ((dedupByKey_sublist _).subset hb)).2]
  exact hab

/-- A node-set is what sorting gives from its nodes, however they are listed. -/
theorem IsNodeSet.sortedByRank_eq {out : List Node} (h : IsNodeSet top out)
    (hmem : ∀ m, m ∈ nodes ↔ m ∈ out) : sortedByRank nodes = out := by
  have inside : ∀ n ∈ nodes, n.document = top := fun n hn => h.inside n ((hmem n).mp hn)
  exact (isNodeSet_sortedByRank inside).ext h fun m => (mem_sortedByRank inside).trans (hmem m)

end HtmlQuery
