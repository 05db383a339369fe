import HtmlQuery.Proofs.Query.Location

/-!
# Predicates that do not count

A predicate whose value is never a number does not depend on positions: it keeps a node or drops it
wherever the node stands.  If it never fails either, it filters lists as a test on nodes does
(`Filters`), and so does a step with such predicates.

A path that looks everywhere below some nodes goes through their subtrees to the children of each
node there, and sorts what it comes upon.  With such predicates it finds what a single step down the
`descendant` axis finds (`evalSteps_descendants`).
-/

namespace HtmlQuery

/-! ## Tests as predicates -/

/-- At every node of a tree an expression has a value, which is no number and as true as a test says
of the node. -/
def Expr.Decides (top : Node) (e : Expr) (test : Node → Bool) : Prop :=
  ∀ focus : Focus, focus.node.document = top →
    ∃ v, e.eval top focus = .ok v ∧ v.type ≠ .number ∧ v.toBoolean = test focus.node

/-- Predicates keep those nodes of a tree that pass a test. -/
def Filters (top : Node) (predicates : List Expr) (test : Node → Bool) : Prop :=
  ∀ nodes : List Node, (∀ n ∈ nodes, n.document = top) →
    evalPredicates top predicates nodes = .ok (nodes.filter test)

theorem Value.keeps_of_type_ne_number {v : Value} (h : v.type ≠ .number) (position : Nat) :
    v.keeps position = v.toBoolean := by
  cases v with
  | number n => exact absurd rfl h
  | nodeSet nodes => rfl
  | boolean b => rfl
  | string s => rfl

theorem Value.type_boolean_ne_number {b : Bool} : (Value.boolean b).type ≠ .number := by
  intro h
  cases h

section Tests

variable {top : Node} {e e' : Expr} {test test' : Node → Bool}

theorem Expr.Decides.keepFrom (h : e.Decides top test) {nodes : List Node}
    (inside : ∀ n ∈ nodes, n.document = top) (size position : Nat) :
    keepFrom (fun focus => e.eval top focus) size position nodes = .ok (nodes.filter test) := by
  induction nodes generalizing position with
  | nil => rfl
  | cons n rest ih =>
    obtain ⟨v, hv, htype, htest⟩ := h ⟨n, position, size⟩ (inside n List.mem_cons_self)
    have hrest := ih (fun m hm => inside m (List.mem_cons_of_mem n hm)) (position + 1)
    rw [HtmlQuery.keepFrom, hv, ok_bind, hrest, ok_bind, Value.keeps_of_type_ne_number htype, htest,
      List.filter_cons]
    rfl

theorem filters_nil : Filters top [] fun _ => true := by
  intro nodes _
  rw [evalPredicates, List.filter_true]

theorem Expr.Decides.filters_cons {es : List Expr} (h : e.Decides top test)
    (h' : Filters top es test') : Filters top (e :: es) fun n => test n && test' n := by
  intro nodes inside
  have hkept : ∀ n ∈ nodes.filter test, n.document = top :=
    fun n hn => inside n (List.mem_of_mem_filter hn)
  rw [evalPredicates, keepWhere, h.keepFrom inside, ok_bind, h' _ hkept, List.filter_filter]
  simp only [Bool.and_comm]

theorem Expr.Decides.filters (h : e.Decides top test) : Filters top [e] test := by
  have hone := h.filters_cons filters_nil
  simpa only [Bool.and_true] using hone

/-- An expression behind `and` is only looked at where the one before it is true. -/
theorem Expr.Decides.and (h : e.Decides top test)
    (h' : ∀ focus : Focus, focus.node.document = top → test focus.node = true →
      ∃ v, e'.eval top focus = .ok v ∧ v.toBoolean = test' focus.node) :
    (Expr.binary .and e e').Decides top fun n => test n && test' n := by
  intro focus inside
  obtain ⟨v, hv, -, htest⟩ := h focus inside
  rw [Expr.eval, hv, ok_bind, htest]
  cases hn : test focus.node with
  | false =>
    refine ⟨.boolean false, rfl, Value.type_boolean_ne_number, ?_⟩
    show false = (test focus.node && test' focus.node)
    rw [hn, Bool.false_and]
  | true =>
    obtain ⟨v', hv', htest'⟩ := h' focus inside hn
    rw [if_pos rfl, hv', ok_bind]
    refine ⟨.boolean v'.toBoolean, rfl, Value.type_boolean_ne_number, ?_⟩
    show v'.toBoolean = (test focus.node && test' focus.node)
    rw [hn, Bool.true_and, htest']

end Tests

/-! ## Everywhere below a node -/

section Below

variable {top n m : Node} {axis : Axis} {test : NodeTest} {predicates : List Expr}
variable {p : Node → Bool} {nodes : List Node}

theorem Step.select_of_filters (h : Filters top predicates p) (hn : n.document = top) :
    (Step.mk axis test predicates).select top n =
      .ok ((axis.nodes n).filter fun m => test.passes axis m && p m) := by
  rw [select, h _ fun m hm => ?_]
  · rw [axisNodes, List.filter_filter]
    simp only [Bool.and_comm]
  · exact (Axis.document_of_mem (List.mem_of_mem_filter hm)).trans hn

theorem Step.select_every (axis : Axis) (hn : n.document = top) :
    (Step.every axis).select top n = .ok (axis.nodes n) := by
  rw [every, select_of_filters filters_nil hn]
  simp [NodeTest.passes]

/-- From a single node a step yields its selection, in the order of the document. -/
theorem Step.eval_singleton {s : Step} {l : List Node} (h : s.select top n = .ok l)
    (hl : IsNodeSet top l) : s.eval top [n] = .ok l := by
  rw [eval_eq, collect, h, ok_bind, collect, ok_bind, List.append_nil]
  exact congrArg Except.ok (hl.sortedByRank_eq fun m => Iff.rfl)

/-- Only attributes have axes on which a test is about something else. -/
theorem NodeTest.passes_descendant (test : NodeTest) :
    test.passes .descendant = test.passes .child := by
  cases test <;> rfl

/-- A step to the nodes of subtrees and one to their children find what one step to all nodes below
finds, if the predicates are tests: what they keep does not depend on the list that it is in. -/
theorem evalSteps_descendants (h : Filters top predicates p)
    (inside : ∀ n ∈ nodes, n.document = top) :
    ∃ out, evalSteps top [.descendantOrSelf, .mk .child test predicates] nodes = .ok out ∧
      evalSteps top [.mk .descendant test predicates] nodes = .ok out := by
  have hsubtree : ∀ n ∈ nodes, Step.descendantOrSelf.select top n = .ok (n :: n.descendants) :=
    fun n hn => Step.select_every .descendantOrSelf (inside n hn)
  have hchildren : ∀ n ∈ nodes, ∀ k ∈ n :: n.descendants,
      (Step.mk .child test predicates).select top k =
        .ok (k.children.filter fun m => test.passes .child m && p m) :=
    fun n hn k hk =>
      Step.select_of_filters h ((Axis.descendantOrSelf.document_of_mem hk).trans (inside n hn))
  have hbelow : ∀ n ∈ nodes, (Step.mk .descendant test predicates).select top n =
      .ok (n.descendants.filter fun m => test.passes .child m && p m) := by
    intro n hn
    rw [Step.select_of_filters h (inside n hn), test.passes_descendant]
    rfl
  have hlong : ∃ out,
      evalSteps top [.descendantOrSelf, .mk .child test predicates] nodes = .ok out :=
    (exists_evalSteps_iff inside).mpr fun n hn =>
      ⟨_, hsubtree n hn, fun k hk => ⟨_, hchildren n hn k hk, fun _ _ => trivial⟩⟩
  have hshort : ∃ out, evalSteps top [.mk .descendant test predicates] nodes = .ok out :=
    (exists_evalSteps_iff inside).mpr fun n hn => ⟨_, hbelow n hn, fun _ _ => trivial⟩
  obtain ⟨out, hout⟩ := hlong
  obtain ⟨out', hout'⟩ := hshort
  have hmem : ∀ m, m ∈ out ↔ m ∈ out' := by
    intro m
    rw [mem_evalSteps_iff inside hout, mem_evalSteps_iff inside hout']
    refine exists_congr fun n => and_congr_right fun hn => ?_
    simp only [reaches_cons, reaches_nil, Step.selection_of_select (hsubtree n hn),
      Step.selection_of_select (hbelow n hn)]
    rw [exists_eq_right, List.mem_filter, mem_descendants_iff_exists_child]
    constructor
    · rintro ⟨k, hk, m, hm, rfl⟩
      rw [Step.selection_of_select (hchildren n hn k hk), List.mem_filter] at hm
      exact ⟨⟨k, List.mem_cons.mp hk, hm.1⟩, hm.2⟩
    · rintro ⟨⟨k, hk, hm⟩, hp⟩
      have hk : k ∈ n :: n.descendants := List.mem_cons.mpr hk
      refine ⟨k, hk, m, ?_, rfl⟩
      rw [Step.selection_of_select (hchildren n hn k hk)]
      exact List.mem_filter.mpr ⟨hm, hp⟩
  obtain rfl := (isNodeSet_of_evalSteps_cons inside hout).ext
    (isNodeSet_of_evalSteps_cons inside hout') hmem
  exact ⟨out, hout, hout'⟩

/-- A path that goes everywhere below a node finds the nodes there that pass its test and its
predicates, in document order. -/
theorem eval_below (h : Filters n.document predicates p) (position size : Nat) :
    (Expr.path false [.every .self, .descendantOrSelf, .mk .child test predicates]).eval n.document
        ⟨n, position, size⟩ =
      .ok (.nodeSet (n.descendants.filter fun m => test.passes .child m && p m)) := by
  have hself : (Step.every .self).eval n.document [n] = .ok [n] :=
    Step.eval_singleton (Step.select_every .self rfl) (.singleton rfl)
  have hbelow : (Step.mk .descendant test predicates).eval n.document [n] =
      .ok (n.descendants.filter fun m => test.passes .child m && p m) := by
    rw [← test.passes_descendant]
    exact Step.eval_singleton (Step.select_of_filters h rfl)
      ((isNodeSet_descendants n).sublist List.filter_sublist)
  have inside : ∀ k ∈ [n], k.document = n.document := List.forall_mem_singleton.mpr rfl
  obtain ⟨out, hlong, hshort⟩ : ∃ out,
      evalSteps n.document [.descendantOrSelf, .mk .child test predicates] [n] = .ok out ∧
        evalSteps n.document [.mk .descendant test predicates] [n] = .ok out :=
    evalSteps_descendants h inside
  rw [evalSteps, hbelow, ok_bind, evalSteps] at hshort
  rw [Expr.eval, if_neg Bool.false_ne_true, evalSteps, hself, ok_bind, hlong, ← hshort]
  rfl

end Below

end HtmlQuery
