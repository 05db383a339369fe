import HtmlQuery.Proofs.Tree.Kinship
import HtmlQuery.Proofs.Tree.Walk

/-!
# One order of the document

The order of two nodes of a tree can be found in several ways, and all of them agree.

*Addresses.*  `Node.compare?` compares the paths of the two nodes.

*Numbers.*  A walk through the tree numbers its nodes, the attributes of an element right after it.
The number of a node is its rank (`Node.getElem?_numbered_iff`), because the nodes of every subtree
get consecutive numbers (`Node.map_rank_all`).

*Lines.*  Two lines from the top of the tree down to the nodes part somewhere.  Where one of them
ends there, its node is above the other one.  Else they go on with two siblings, and the order of
these decides (`Node.compareAtSplit_eq`).

So sorting by the order of the document puts nodes in the order in which the walk meets them
(`sortedByOrder_eq`).
-/

namespace HtmlQuery

namespace Node

/-! ## Numbers -/

theorem all_eq (p : Place) :
    all p = (inner p :: (inner p).attributeNodes) ++ p.children.flatMap all := by
  rw [all, Place.withDescendants_eq, List.flatMap_cons, List.flatMap_assoc]
  rfl

theorem mem_all {top : Place} {n : Node} : n ∈ all top ↔ n.place ∈ top.withDescendants := by
  rw [all, List.mem_flatMap]
  match n with
  | .inner p => simp [attributeNodes, place]
  | .attribute owner i =>
    simp only [List.mem_cons, reduceCtorEq, false_or, mem_attributeNodes, isAttribute_attribute,
      parent?, Option.some.injEq, inner.injEq, true_and, place, exists_eq_right']

theorem map_rank_attributeNodes (p : Place) :
    (inner p).attributeNodes.map rank = List.range' (p.rank + 1) p.attributes.length := by
  rw [attributeNodes, List.map_map, List.range'_eq_map_range, ← List.map_coe_finRange_eq_range,
    List.map_map]
  rfl

/-- The subtrees of children have consecutive numbers if each of them has. -/
theorem map_rank_childrenFrom {id : TreeId} {parent : Tree} {above : List Level}
    {fits : Fits parent above} {passed : Passed} {rest : List Tree}
    (h : Splits above parent passed rest)
    (each : ∀ c ∈ Place.childrenFrom id fits passed rest h,
      (all c).map rank = List.range' c.rank c.focus.weight) :
    ((Place.childrenFrom id fits passed rest h).flatMap all).map rank =
      List.range' passed.rank (weightOfForest rest) := by
  induction rest generalizing passed with
  | nil => rfl
  | cons t after ih =>
    rw [Place.childrenFrom, List.forall_mem_cons] at each
    have hrest := ih h.push each.2
    rw [Place.childrenFrom, List.flatMap_cons, List.map_append, each.1, hrest]
    exact List.range'_append_1

/-- A walk numbers the nodes of a subtree consecutively, beginning with the rank of its top. -/
theorem map_rank_all (p : Place) : (all p).map rank = List.range' p.rank p.focus.weight := by
  induction p using Place.induction_on_children with
  | step p ih =>
    rw [Place.children_eq] at ih
    have hkids := map_rank_childrenFrom _ ih
    rw [← Place.children_eq] at hkids
    have hstart : (Passed.start p.focus p.above).rank = p.rank + 1 + p.attributes.length := rfl
    have hweight : p.focus.weight =
        p.attributes.length + 1 + weightOfForest p.focus.children := by
      rw [Place.weight_eq, Nat.add_comm 1]
      rfl
    rw [all_eq, List.map_append, List.map_cons, map_rank_attributeNodes, hkids, hstart, hweight,
      rank, ← List.range'_succ, Nat.add_assoc, Nat.add_comm 1, List.range'_append_1]

theorem rank_of_parent_none {p : Place} (h : p.parent? = none) : p.rank = 0 := by
  obtain ⟨id, t, _ | ⟨level, above⟩, fits⟩ := p
  · rfl
  · simp [Place.parent?] at h

/-- The nodes of the tree of a node as they are numbered, by a walk from the top through everything
below it, with the attributes of an element right after it. -/
def numbered (n : Node) : List Node :=
  (n.document :: n.document.descendantWalk.toList).flatMap fun m => m :: m.attributeNodes

theorem numbered_eq (n : Node) : n.numbered = all n.place.top := by
  have hwalk : n.document :: n.document.descendantWalk.toList =
      n.place.top.withDescendants.map inner := by
    rw [toList_descendantWalk, document, descendants, Place.withDescendants_eq,
      Place.descendants_eq, List.map_cons]
  rw [numbered, hwalk, List.flatMap_map]
  rfl

/-- The number that a node gets is its rank. -/
theorem getElem?_numbered_iff {n : Node} {i : Nat} : n.numbered[i]? = some n ↔ i = n.rank := by
  have hnumber : ∀ {i : Nat}, n.numbered[i]? = some n → i = n.rank := by
    intro i h
    have hrank : (n.numbered.map rank)[i]? = some n.rank := by
      rw [List.getElem?_map, h]
      rfl
    rw [numbered_eq, map_rank_all, rank_of_parent_none n.place.parent?_top,
      ← List.range_eq_range', List.getElem?_eq_some_iff] at hrank
    obtain ⟨_, hrank⟩ := hrank
    rwa [List.getElem_range] at hrank
  constructor
  · exact hnumber
  · rintro rfl
    have hmem : n ∈ n.numbered := n.numbered_eq ▸ mem_all.mpr n.place.mem_withDescendants_top
    obtain ⟨i, hi⟩ := List.mem_iff_getElem?.mp hmem
    exact hnumber hi ▸ hi

end Node

/-! ## Lines -/

namespace Place

theorem eq_of_path_eq {a b : Place} (h : a.top = b.top) (hp : a.path = b.path) : a = b := by
  rcases before_trichotomy h with h | h | h
  · exact h
  · exact absurd (hp ▸ h.path) (List.lt_irrefl _)
  · exact absurd (hp ▸ h.path) (List.lt_irrefl _)

/-- The places from the top of the tree down to a place. -/
def lineage (p : Place) : List Place :=
  p.ancestors.reverse ++ [p]

/-- A line leads down from a place to another one, from every place to one of its children. -/
inductive Line : Place → Place → List Place → Prop where
  | here (p : Place) : Line p p [p]
  | step {p c q : Place} {line : List Place} :
    c.parent? = some p → Line c q line → Line p q (p :: line)

theorem Line.snoc {p q c : Place} {line : List Place} (h : Line p q line)
    (hc : c.parent? = some q) : Line p c (line ++ [c]) := by
  induction h with
  | here p => exact .step hc (.here c)
  | step hp _ ih => exact .step hp (ih hc)

theorem line_lineage (p : Place) : Line p.top p p.lineage := by
  induction p using induction_on_parent with
  | top p h =>
    rw [top_of_parent_none h, lineage, ancestors_of_parent_none h]
    exact .here p
  | child p q h ih =>
    rw [top_of_parent h, lineage, ancestors_of_parent h, List.reverse_cons]
    exact ih.snoc h

theorem Line.mem_withDescendants {p q : Place} {line : List Place} (h : Line p q line) :
    q ∈ p.withDescendants := by
  induction h with
  | here p => exact p.mem_withDescendants_self
  | @step p c q line hc _ ih =>
    rw [withDescendants_eq]
    exact List.mem_cons_of_mem p (List.mem_flatMap.mpr ⟨c, mem_children.mpr hc, ih⟩)

theorem Line.exists_cons {p q : Place} {line : List Place} (h : Line p q line) :
    ∃ rest, line = p :: rest := by
  cases h with
  | here => exact ⟨[], rfl⟩
  | step _ _ => exact ⟨_, rfl⟩

/-- The order in which two lines end: where they part, a line that is over comes first, and of two
siblings the one that has the other behind it. -/
def compareLines : List Place → List Place → Ordering
  | [], [] => .eq
  | [], _ :: _ => .lt
  | _ :: _, [] => .gt
  | a :: as, b :: bs =>
    if a.path = b.path then compareLines as bs
    else if a.followingSiblings.any (·.path = b.path) then .lt
    else .gt

/-- Lines that part at two siblings end in the order of these. -/
theorem compareLines_of_siblings {a b p q r : Place} {as bs : List Place}
    (ha : a.parent? = some r) (hb : b.parent? = some r) (hne : a ≠ b) (hp : Line a p as)
    (hq : Line b q bs) : compareLines as bs = compare p.rank q.rank := by
  obtain ⟨as, rfl⟩ := hp.exists_cons
  obtain ⟨bs, rfl⟩ := hq.exists_cons
  have htop : a.top = b.top := (top_of_parent ha).trans (top_of_parent hb).symm
  have hpath : ¬ a.path = b.path := fun h => hne (eq_of_path_eq htop h)
  have hany : a.followingSiblings.any (·.path = b.path) = true ↔ b ∈ a.followingSiblings := by
    simp only [List.any_eq_true, decide_eq_true_eq]
    constructor
    · rintro ⟨c, hc, he⟩
      obtain ⟨r', hr, hr'⟩ := parent_of_mem_followingSiblings hc
      have hcb : c = b := eq_of_path_eq
        ((top_of_parent hr').trans ((top_of_parent hr).symm.trans htop)) he
      exact hcb ▸ hc
    · intro hb
      exact ⟨b, hb, rfl⟩
  rw [compareLines, if_neg hpath]
  rcases sibling_cases ha hb with hs | hs | hs
  · have hsep := separated_of_mem_precedingSiblings hs
    have hbefore := hsep.before hb ha hq.mem_withDescendants hp.mem_withDescendants
    have hnot : ¬ b ∈ a.followingSiblings := by
      intro hf
      have := (separated_of_mem_followingSiblings hf).index
      have := hsep.index
      omega
    have := hbefore.rank
    rw [if_neg (hany.not.mpr hnot), compare_gt_iff_gt.mpr (by omega)]
  · exact absurd hs.symm hne
  · have hsep := separated_of_mem_followingSiblings hs
    have hbefore := hsep.before ha hb hp.mem_withDescendants hq.mem_withDescendants
    have := hbefore.rank
    rw [if_pos (hany.mpr hs), compare_lt_iff_lt.mpr (by omega)]

/-- Lines that begin at one place end in the order of the document. -/
theorem compareLines_eq {r p q : Place} {as bs : List Place} (hp : Line r p as) (hq : Line r q bs) :
    compareLines as bs = compare p.rank q.rank := by
  induction hp generalizing bs with
  | here r =>
    cases hq with
    | here => rw [compareLines, if_pos rfl, compareLines, compare_eq_iff_eq.mpr rfl]
    | @step _ c _ bs hc hq =>
      obtain ⟨rest, rfl⟩ := hq.exists_cons
      have hlt := (extent_of_parent hc).1
      have hle := (extent_of_mem hq.mem_withDescendants).1
      rw [compareLines, if_pos rfl, compareLines, compare_lt_iff_lt.mpr (by omega)]
  | @step r c p as hc hp ih =>
    cases hq with
    | here =>
      obtain ⟨rest, rfl⟩ := hp.exists_cons
      have hlt := (extent_of_parent hc).1
      have hle := (extent_of_mem hp.mem_withDescendants).1
      rw [compareLines, if_pos rfl, compareLines, compare_gt_iff_gt.mpr (by omega)]
    | @step _ d _ bs hd hq =>
      rw [compareLines, if_pos rfl]
      rcases eq_or_ne c d with rfl | hne
      · exact ih hq
      · exact compareLines_of_siblings hc hd hne hp hq

theorem compareLines_lineage {a b : Place} (h : a.top = b.top) :
    compareLines a.lineage b.lineage = compare a.rank b.rank :=
  compareLines_eq (line_lineage a) (h ▸ line_lineage b)

end Place

namespace Node

theorem compare?_eq_none_iff {a b : Node} : a.compare? b = none ↔ a.tree ≠ b.tree := by
  rw [compare?]
  split <;> simpa

/-- The order of two nodes of a tree, found where the lines down to them part.  At one place the
attributes decide. -/
def compareAtSplit (a b : Node) : Ordering :=
  if a.place.path = b.place.path then Address.compareAttribute a.attributeIndex? b.attributeIndex?
  else Place.compareLines a.place.lineage b.place.lineage

theorem compareAtSplit_eq {a b : Node} (h : a.document = b.document) :
    a.compareAtSplit b = compare a.rank b.rank := by
  have htop := document_eq_iff.mp h
  rw [compareAtSplit]
  split
  next hpath => exact compareAttribute_eq (Place.eq_of_path_eq htop hpath)
  next hpath =>
    rw [Place.compareLines_lineage htop]
    rcases Place.before_trichotomy htop with he | hlt | hgt
    · exact absurd (congrArg Place.path he) hpath
    · have := hlt.rank
      rw [compare_lt_iff_lt.mpr (rank_lt_of_before hlt), compare_lt_iff_lt.mpr (by omega)]
    · have := hgt.rank
      rw [compare_gt_iff_gt.mpr (rank_lt_of_before hgt), compare_gt_iff_gt.mpr (by omega)]

end Node

/-! ## Sorting -/

section Sorting

variable {top : Place} {nodes : List Node}

theorem isNodeSet_all (top : Place) (h : top.parent? = none) :
    IsNodeSet (.inner top) (Node.all top) := by
  refine .of_rank (fun n hn => ?_) ?_
  · have hplace := Place.top_eq_of_mem_withDescendants (Node.mem_all.mp hn)
    rw [Place.top_of_parent_none h] at hplace
    exact congrArg Node.inner hplace
  · rw [← List.pairwise_map (f := Node.rank) (R := (· < ·)), Node.map_rank_all]
    exact List.pairwise_lt_range'

/-- Each node of a list is found once where its copies are collected along a list without
duplicates. -/
theorem perm_flatMap_filter_same {along : List Node} (hnodup : along.Nodup)
    (inside : ∀ n ∈ along, n.document = .inner top) (hnodes : ∀ n ∈ nodes, n ∈ along) :
    (along.flatMap fun n => nodes.filter n.same).Perm nodes := by
  induction nodes with
  | nil => simp
  | cons m rest ih =>
    obtain ⟨hm, hrest⟩ := List.forall_mem_cons.mp hnodes
    obtain ⟨before, behind, rfl⟩ := List.append_of_mem hm
    have hmiddle := List.nodup_middle.mp hnodup
    have hother : ∀ n ∈ before ++ behind, (m :: rest).filter n.same = rest.filter n.same := by
      intro n hn
      refine List.filter_cons_of_neg fun hs => ?_
      have hin : n ∈ before ++ m :: behind := by
        rw [List.mem_append] at hn ⊢
        exact hn.imp_right (List.mem_cons_of_mem m)
      have hnm := (Node.same_iff_eq ((inside n hin).trans (inside m hm).symm)).mp hs
      exact (List.nodup_cons.mp hmiddle).1 (hnm ▸ hn)
    have hself : (m :: rest).filter m.same = m :: rest.filter m.same :=
      List.filter_cons_of_pos ((Node.same_iff_eq rfl).mpr rfl)
    have hbefore := List.flatMap_congr fun n hn => hother n (List.mem_append_left _ hn)
    have hbehind := List.flatMap_congr fun n hn => hother n (List.mem_append_right _ hn)
    have hih := ih hrest
    rw [List.flatMap_append, List.flatMap_cons] at hih ⊢
    rw [hbefore, hbehind, hself, List.cons_append]
    exact List.perm_middle.trans (hih.cons m)

/-- Within one tree the test that nodes are sorted by compares their ranks. -/
theorem sortedByOrder_eq_mergeSort (inside : ∀ n ∈ nodes, n.document = .inner top) :
    sortedByOrder nodes = nodes.mergeSort fun a b => a.rank ≤ b.rank := by
  have hle : ∀ a ∈ nodes, ∀ b ∈ nodes,
      (a.compare? b != some .gt) = decide (a.rank ≤ b.rank) := by
    intro a ha b hb
    rw [Node.compare?_eq_compare_rank ((inside a ha).trans (inside b hb).symm)]
    rcases Nat.lt_trichotomy a.rank b.rank with h | h | h
    · rw [compare_lt_iff_lt.mpr h, decide_eq_true h.le]
      rfl
    · rw [compare_eq_iff_eq.mpr h, decide_eq_true h.le]
      rfl
    · rw [compare_gt_iff_gt.mpr h, decide_eq_false (Nat.not_le.mpr h)]
      rfl
  have hsort := List.map_mergeSort (f := id) (s := fun a b : Node => decide (a.rank ≤ b.rank)) hle
  rwa [List.map_id, List.map_id] at hsort

/-- Sorted by the order of the document, nodes of a tree come as the walk meets them, those that
are given several times as often as they are given. -/
theorem sortedByOrder_eq (inside : ∀ n ∈ nodes, n.document = .inner top) :
    sortedByOrder nodes = (Node.all top).flatMap fun n => nodes.filter n.same := by
  cases nodes with
  | nil => simp [sortedByOrder]
  | cons m rest =>
    have htop : top.parent? = none := by
      rw [← Node.inner.inj (inside m List.mem_cons_self)]
      exact m.place.parent?_top
    have hall := isNodeSet_all top htop
    have hmem : ∀ n ∈ m :: rest, n ∈ Node.all top := by
      intro n hn
      rw [Node.mem_all, ← Node.inner.inj (inside n hn)]
      exact n.place.mem_withDescendants_top
    have hperm := perm_flatMap_filter_same hall.nodup hall.inside hmem
    have hcopy : ∀ {n a : Node}, n ∈ Node.all top → a ∈ (m :: rest).filter n.same → n = a := by
      intro n a hn ha
      obtain ⟨ha, hs⟩ := List.mem_filter.mp ha
      exact (Node.same_iff_eq ((hall.inside n hn).trans (inside a ha).symm)).mp hs
    rw [sortedByOrder_eq_mergeSort inside]
    refine List.Perm.eq_of_pairwise ?_ (List.pairwise_mergeSort ?_ ?_ _) ?_
      ((List.mergeSort_perm _ _).trans hperm.symm)
    · intro a b ha hb hab hba
      have hab := of_decide_eq_true hab
      have hba := of_decide_eq_true hba
      have ha := List.mem_mergeSort.mp ha
      have hb := hperm.mem_iff.mp hb
      exact Node.eq_of_rank_eq ((inside a ha).trans (inside b hb).symm) (Nat.le_antisymm hab hba)
    · simp only [decide_eq_true_eq]
      omega
    · simp only [Bool.or_eq_true, decide_eq_true_eq]
      omega
    · -- The copies of one node have one rank, and those of nodes further on a greater one.
      refine List.pairwise_flatMap.mpr ⟨fun n hn => ?_, hall.pairwise_rank.imp_of_mem ?_⟩
      · refine List.pairwise_of_forall_mem_list fun a ha b hb => decide_eq_true ?_
        rw [← hcopy hn ha, ← hcopy hn hb]
      · intro n m hn hm hlt a ha b hb
        rw [← hcopy hn ha, ← hcopy hm hb]
        exact decide_eq_true hlt.le

end Sorting

/-- The document order is one strict total order, found in several ways.  In a tree the paths of two
nodes, the parting of the lines down to them and the numbers that a walk gives out agree on it.  So
it tells equal handles and no others, turns around with its operands, is transitive and total,
orders handles of one tree and not of two, and sorts handles as the walk meets their nodes. -/
theorem documentOrder_total (a b c other : Node) (nodes : List Node)
    (hab : a.document = b.document) (hbc : b.document = c.document)
    (hother : a.tree = other.tree → a.document = other.document)
    (hnodes : ∀ n ∈ nodes, n.document = a.document) :
    a.compare? b = some (compare a.rank b.rank) ∧ a.compare? b = some (a.compareAtSplit b) ∧
    (∀ i, a.numbered[i]? = some a ↔ i = a.rank) ∧
    (a.compare? b = some .eq ↔ a = b) ∧ (a.same b = true ↔ a = b) ∧
    b.compare? a = (a.compare? b).map Ordering.swap ∧
    (a.Precedes b → b.Precedes c → a.Precedes c) ∧
    (a.Precedes b ∨ a = b ∨ b.Precedes a) ∧
    (a.compare? other = none ↔ a.document ≠ other.document) ∧
    sortedByOrder nodes = a.numbered.flatMap fun n => nodes.filter n.same := by
  have hcompare := Node.compare?_eq_compare_rank hab
  refine ⟨hcompare, ?_, fun i => Node.getElem?_numbered_iff, ?_, Node.same_iff_eq hab, ?_, ?_, ?_, ?_,
    ?_⟩
  · rw [hcompare, Node.compareAtSplit_eq hab]
  · rw [hcompare, Option.some.injEq, compare_eq_iff_eq]
    constructor
    · exact Node.eq_of_rank_eq hab
    · exact congrArg Node.rank
  · rw [hcompare, Node.compare?_eq_compare_rank hab.symm, Option.map_some, Nat.compare_swap]
  · rw [Node.precedes_iff_rank hab, Node.precedes_iff_rank hbc,
      Node.precedes_iff_rank (hab.trans hbc)]
    exact Nat.lt_trans
  · rw [Node.precedes_iff_rank hab, Node.precedes_iff_rank hab.symm]
    rcases Nat.lt_trichotomy a.rank b.rank with h | h | h
    · exact .inl h
    · exact .inr (.inl (Node.eq_of_rank_eq hab h))
    · exact .inr (.inr h)
  · rw [Node.compare?_eq_none_iff]
    exact not_congr ⟨hother, Node.tree_eq_of_document_eq⟩
  · rw [Node.numbered_eq]
    exact sortedByOrder_eq hnodes

/-- The top of the page `<p><a x="1" y="2"></a><b z="3"></b></p>`. -/
def attributePage : Place :=
  .ofTree ⟨0⟩ (.node .document
    [.node (.element .html "p" [])
      [.node (.element .html "a" [⟨"x", "1", .plain⟩, ⟨"y", "2", .plain⟩]) [],
        .node (.element .html "b" [⟨"z", "3", .plain⟩]) []]])

/-- The attribute `y` comes before the element `b` and this one before its own attribute.  The nodes
of the page are put right when they come backwards. -/
theorem documentOrder_attributePage :
    ∃ y b z : Node, [y, b, z].map Node.tagName? = [some "y", some "b", some "z"] ∧ y.Precedes z ∧
      sortedByOrder (Node.all attributePage).reverse =
        y.numbered.flatMap fun n => (Node.all attributePage).reverse.filter n.same := by
  have hinside := (isNodeSet_all attributePage rfl).inside
  obtain ⟨-, -, -, -, -, -, htrans, -, -, hsort⟩ :=
    documentOrder_total ((Node.all attributePage).get ⟨4, by decide⟩)
      ((Node.all attributePage).get ⟨5, by decide⟩) ((Node.all attributePage).get ⟨6, by decide⟩)
      (.inner (.ofTree ⟨1⟩ (.node .document []))) (Node.all attributePage).reverse rfl rfl
      (fun h => absurd (congrArg TreeId.number h) (by decide))
      (fun n hn => hinside n (List.mem_reverse.mp hn))
  exact ⟨_, (Node.all attributePage).get ⟨5, by decide⟩, _, rfl, htrans rfl rfl, hsort⟩

end HtmlQuery
