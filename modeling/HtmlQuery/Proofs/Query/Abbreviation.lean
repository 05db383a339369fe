import HtmlQuery.Proofs.Query.Filter

/-!
# The abbreviated descendant search

`//` stands for a step to a node and all nodes below it, and the step behind it goes on to their
children.  `abbreviated_descendants` says when the two may be taken together as one step down the
`descendant` axis: when no predicate asks for a position.  The two steps number the nodes anew for
each parent, the single step numbers all of them, and a predicate that does not look at the numbers
cannot tell.  One that does can: `//b[1]` finds the first `b` of every parent, and `descendant::b[1]`
a single one.
-/

namespace HtmlQuery

/-- At every node of a tree an expression has a value, which is no number and is the same wherever
the node stands in the list that is filtered and however long that list is. -/
def Expr.IgnoresPosition (top : Node) (e : Expr) : Prop :=
  ∀ n : Node, n.document = top →
    ∃ v : Value, v.type ≠ .number ∧ ∀ position size, e.eval top ⟨n, position, size⟩ = .ok v

section Laws

variable {top : Node} {e : Expr} {steps : List Step} {predicates : List Expr}

/-- What a predicate decides that ignores positions can be seen at any position. -/
theorem Expr.IgnoresPosition.decides (h : e.IgnoresPosition top) :
    e.Decides top fun n => e.holds top 1 n 1 := by
  rintro ⟨n, position, size⟩ inside
  obtain ⟨v, htype, hv⟩ := h n inside
  refine ⟨v, hv position size, htype, ?_⟩
  have hholds : e.holds top 1 n 1 = v.keeps 1 := by
    rw [holds, hv 1 1]
  exact (hholds.trans (Value.keeps_of_type_ne_number htype 1)).symm

theorem filters_of_ignoresPosition (h : ∀ e ∈ predicates, e.IgnoresPosition top) :
    Filters top predicates fun n => predicates.all fun e => e.holds top 1 n 1 := by
  induction predicates with
  | nil => exact filters_nil
  | cons e es ih =>
    obtain ⟨he, hes⟩ := List.forall_mem_cons.mp h
    exact he.decides.filters_cons (ih hes)

/-- A path starts at the node alone, so it ignores positions if no predicate in it fails. -/
theorem ignoresPosition_path (h : ∀ n : Node, n.document = top → Runs top steps n) :
    (Expr.path false steps).IgnoresPosition top := by
  intro n hn
  have inside : ∀ m ∈ [n], m.document = top := List.forall_mem_singleton.mpr hn
  obtain ⟨out, hout⟩ := (exists_evalSteps_iff inside).mpr
    (List.forall_mem_singleton.mpr (h n hn))
  refine ⟨.nodeSet out, (by rintro ⟨⟩), fun position size => ?_⟩
  rw [Expr.eval, if_neg Bool.false_ne_true, hout]
  rfl

end Laws

/-- The abbreviated descendant search finds what the direct axis finds.  Let the nodes be any of a
tree, in whatever order, also nodes below one another and attributes, and let no predicate ask for a
position.  Then going to the nodes of their subtrees and from each of these to its children gives
the same list as going to all nodes below them at once, and neither way fails. -/
theorem abbreviated_descendants (top : Node) (nodes : List Node) (test : NodeTest)
    (predicates : List Expr) (inside : ∀ n ∈ nodes, n.document = top)
    (h : ∀ e ∈ predicates, e.IgnoresPosition top) :
    ∃ out, evalSteps top [.descendantOrSelf, .mk .child test predicates] nodes = .ok out ∧
      evalSteps top [.mk .descendant test predicates] nodes = .ok out :=
  evalSteps_descendants (filters_of_ignoresPosition h) inside

/-- From all places of a page at once: what is below an element, which is asked for by its
parent. -/
theorem abbreviated_descendants_smallPage :
    let nodes := smallPage :: smallPage.descendants
    let belowElement : Expr := .path false [.mk .parent .any []]
    (∀ n ∈ nodes, n.document = smallPage) ∧ belowElement.IgnoresPosition smallPage ∧
      ∃ out, evalSteps smallPage [.descendantOrSelf, .mk .child .node [belowElement]] nodes =
          .ok out ∧
        evalSteps smallPage [.mk .descendant .node [belowElement]] nodes = .ok out ∧
          out.map Node.kind = [.element, .text] := by
  intro nodes belowElement
  have inside : ∀ n ∈ nodes, n.document = smallPage := by
    intro n hn
    exact Axis.descendantOrSelf.document_of_mem (n := smallPage) hn
  have hignores : belowElement.IgnoresPosition smallPage :=
    ignoresPosition_path fun n hn =>
      ⟨_, Step.select_of_filters filters_nil hn, fun _ _ => trivial⟩
  obtain ⟨out, hlong, hshort⟩ := abbreviated_descendants smallPage nodes .node [belowElement] inside
    (List.forall_mem_singleton.mpr hignores)
  refine ⟨inside, hignores, out, hlong, hshort, ?_⟩
  have hout : (evalSteps smallPage [.mk .descendant .node [belowElement]] nodes).map
      (List.map Node.kind) = .ok [.element, .text] := by cbv
  rw [hshort] at hout
  exact Except.ok.inj hout

end HtmlQuery
