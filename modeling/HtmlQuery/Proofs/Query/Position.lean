import HtmlQuery.Proofs.Decimal.Equality
import HtmlQuery.Proofs.Query.Evaluation
import HtmlQuery.Query.Lexer

/-!
# Predicates that count

A predicate whose value is a number keeps the node whose position is that number.  Positions are
counted in the list that is filtered, and this is in axis order: on a reverse axis the nearest node
is the first.  Only what is kept is turned into the order of the document.

`Picks` says of a predicate that it holds at one position of a list.  The digits of a number do, and
so does `last()` (`picks_written`, `picks_last`).  A list filtered by such a predicate is left with
the node at that position, if it has one (`keepWhere_of_picks`).

What a predicate keeps depends on nothing but which positions it keeps (`keepFrom_congr`).  So a
number and its comparison with `position()` are the same predicate, wherever they stand in a chain
(`evalPredicates_of_counted`).

Positions are doubles.  They are told apart as long as a list has fewer than `2 ^ 53` nodes.
-/

namespace HtmlQuery

open Decimal

/-! ## Numbers as digits write them -/

/-- A number as its digits write it in a query. -/
def Expr.written (k : Nat) : Expr :=
  .number (numberOf (Nat.toDigits 10 k) [])

theorem natOfDigits_dropWhile (digits : List Char) :
    natOfDigits (digits.dropWhile (· == '0')) = natOfDigits digits := by
  induction digits with
  | nil => rfl
  | cons c cs ih =>
    rw [List.dropWhile_cons]
    split
    next hc =>
      rw [ih, natOfDigits, natOfDigits, List.foldl_cons, beq_iff_eq.mp hc]
      rfl
    next => rfl

/-- Digits write the number that they are the digits of, unless there are too many of them. -/
theorem numberOf_toDigits {k : Nat} (hk : 0 < k) :
    numberOf (Nat.toDigits 10 k) [] = Float.ofNat k ∨
      2 ^ 53 ≤ k ∧ numberOf (Nat.toDigits 10 k) [] = 1 / 0 := by
  have hvalue : natOfDigits ((Nat.toDigits 10 k).dropWhile (· == '0')) = k :=
    (natOfDigits_dropWhile _).trans (Nat.ofDigitChars_toDigits (by decide) (by decide))
  have hlength := (List.dropWhile_sublist (· == '0') (l := Nat.toDigits 10 k)).length_le
  simp only [numberOf, Numeral.toFloat, List.drop_nil, List.append_nil, List.length_nil]
  generalize (Nat.toDigits 10 k).dropWhile (· == '0') = digits at hvalue hlength
  cases digits with
  | nil => exact absurd hvalue.symm hk.ne'
  | cons c cs =>
    have hfew :
        ¬ ((c :: cs).isEmpty || decide (((c :: cs).length : Int) + (0 - (0 : Nat)) < -400)) := by
      rw [List.isEmpty_cons, Bool.false_or, decide_eq_true_iff]
      omega
    rw [if_neg Bool.false_ne_true, if_neg hfew]
    split
    next hmany =>
      have hlong : ¬ (Nat.toDigits 10 k).length ≤ 400 := by omega
      rw [Nat.length_toDigits_le_iff (by decide) (by decide), Nat.not_lt] at hlong
      refine .inr ⟨?_, rfl⟩
      calc 2 ^ 53
          ≤ 10 ^ 53 := Nat.pow_le_pow_left (by decide) 53
        _ ≤ 10 ^ 400 := Nat.pow_le_pow_right (by decide) (by decide)
        _ ≤ k := hlong
    next =>
      rw [hvalue]
      exact .inl rfl

/-- The digits of a number are told from every position of a list. -/
theorem numberOf_toDigits_beq {k position : Nat} (hk : 0 < k) (hp : 0 < position)
    (hp' : position < 2 ^ 53) :
    (numberOf (Nat.toDigits 10 k) [] == Float.ofNat position) = true ↔ k = position := by
  rcases numberOf_toDigits hk with h | ⟨hlarge, h⟩
  · rw [h, ofNat_beq_ofNat hp hp']
  · have hne : k ≠ position := by omega
    rw [h, farFromUnits_infinity.beq_ofNat hp hp']
    simp only [hne, Bool.false_eq_true]

/-! ## Picking one position -/

/-- A predicate holds at one position of the lists of a size. -/
def Picks (predicate : Focus → Except QueryError Value) (size k : Nat) : Prop :=
  ∀ n position, 0 < position → position ≤ size →
    ∃ v, predicate ⟨n, position, size⟩ = .ok v ∧ (v.keeps position = true ↔ k = position)

theorem picks_written {top : Node} {size k : Nat} (hk : 0 < k) (hsize : size < 2 ^ 53) :
    Picks (fun focus => (Expr.written k).eval top focus) size k := by
  intro n position hp hle
  exact ⟨_, rfl, numberOf_toDigits_beq hk hp (by omega)⟩

theorem picks_last {top : Node} {size : Nat} (hsize : size < 2 ^ 53) :
    Picks (fun focus => (Expr.call .last []).eval top focus) size size := by
  intro n position hp hle
  exact ⟨.number (Float.ofNat size), rfl, ofNat_beq_ofNat hp (by omega)⟩

theorem keepFrom_of_picks {predicate : Focus → Except QueryError Value} {size k position : Nat}
    {nodes : List Node} (h : Picks predicate size k) (hp : 0 < position)
    (hsize : position + nodes.length ≤ size + 1) :
    keepFrom predicate size position nodes =
      .ok (if position ≤ k then nodes[k - position]?.toList else []) := by
  induction nodes generalizing position with
  | nil => simp [keepFrom]
  | cons n rest ih =>
    rw [List.length_cons] at hsize
    obtain ⟨v, hv, hkeeps⟩ := h n position hp (by omega)
    rw [keepFrom, hv, ok_bind, ih (by omega) (by omega), ok_bind]
    rcases Nat.lt_trichotomy position k with hlt | rfl | hgt
    · have hdrop : (n :: rest)[k - position]? = rest[k - (position + 1)]? := by
        rw [show k - position = k - (position + 1) + 1 by omega, List.getElem?_cons_succ]
      rw [if_neg (by rw [hkeeps]; omega), if_pos (by omega), if_pos hlt.le, hdrop]
      rfl
    · rw [if_pos (hkeeps.mpr rfl), if_neg (by omega), if_pos le_rfl, Nat.sub_self]
      rfl
    · rw [if_neg (by rw [hkeeps]; omega), if_neg (by omega), if_neg (by omega)]
      rfl

/-- A list filtered by a predicate that picks a position is left with the node at that position. -/
theorem keepWhere_of_picks {predicate : Focus → Except QueryError Value} {k : Nat}
    {nodes : List Node} (h : Picks predicate nodes.length k) (hk : nodes ≠ [] → 0 < k) :
    keepWhere predicate nodes = .ok nodes[k - 1]?.toList := by
  cases nodes with
  | nil => rfl
  | cons n rest =>
    have hk : 1 ≤ k := hk (List.cons_ne_nil n rest)
    rw [keepWhere, keepFrom_of_picks h Nat.one_pos (by omega), if_pos hk]

/-! ## The node at a position -/

/-- The nodes of an axis that pass a test, in the order of the document. -/
theorem exists_ordered (axis : Axis) (test : NodeTest) (n : Node) :
    ∃ ordered, IsNodeSet n.document ordered ∧
      (∀ m, m ∈ ordered ↔ axis.Leads n m ∧ test.passes axis m = true) ∧
        axisNodes axis test n = if axis.isReverse then ordered.reverse else ordered := by
  refine ⟨if axis.isReverse then (axisNodes axis test n).reverse else axisNodes axis test n,
    isNodeSet_of_sublist List.filter_sublist, fun m => ?_, ?_⟩
  · rw [← axis.mem_nodes, ← List.mem_filter]
    split
    · exact List.mem_reverse
    · exact Iff.rfl
  · split
    · rw [List.reverse_reverse]
    · rfl

/-- From a single node, a step with one predicate that picks a position leads to the node there. -/
theorem Step.eval_of_picks {top n : Node} {axis : Axis} {test : NodeTest} {predicate : Expr}
    {k : Nat}
    (h : Picks (fun focus => predicate.eval top focus) (axisNodes axis test n).length k)
    (hk : axisNodes axis test n ≠ [] → 0 < k) :
    (Step.mk axis test [predicate]).eval top [n] = .ok (axisNodes axis test n)[k - 1]?.toList := by
  have hselect : evalPredicates top [predicate] (axisNodes axis test n) =
      .ok (axisNodes axis test n)[k - 1]?.toList := by
    rw [evalPredicates, keepWhere_of_picks h hk, ok_bind, evalPredicates]
  have hturn : ∀ m? : Option Node,
      (if axis.isReverse then m?.toList.reverse else m?.toList) = m?.toList := by
    intro m?
    cases m? <;> simp
  rw [eval, stepFrom, collect, hselect, ok_bind, collect, ok_bind, List.append_nil]
  exact congrArg Except.ok (hturn _)

/-! ## Comparisons with the position -/

/-- At every focus in a tree an expression is a number. -/
def Expr.IsNumber (top : Node) (e : Expr) : Prop :=
  ∀ focus : Focus, focus.node.document = top → ∃ x, e.eval top focus = .ok (.number x)

/-- The comparison of the position with an expression. -/
def Expr.positionIs (e : Expr) : Expr :=
  .binary .equal (.call .position []) e

/-- Two predicates are the same, or the first is a number and the second compares the position with
it. -/
def Counted (top : Node) (p q : Expr) : Prop :=
  p = q ∨ p.IsNumber top ∧ q = p.positionIs

section Counted

variable {top : Node}

theorem Counted.map_keeps {p q : Expr} (h : Counted top p q) (focus : Focus)
    (inside : focus.node.document = top) :
    (p.eval top focus).map (·.keeps focus.position) =
      (q.eval top focus).map (·.keeps focus.position) := by
  rcases h with rfl | ⟨hnumber, rfl⟩
  · rfl
  · obtain ⟨x, hx⟩ := hnumber focus inside
    have hposition : (Expr.call .position []).eval top focus =
        .ok (.number (Float.ofNat focus.position)) := rfl
    rw [Expr.positionIs, Expr.eval_binary_of_values (by decide) (by decide) hposition hx, hx]
    exact congrArg Except.ok (beq_comm x (Float.ofNat focus.position))

theorem keepFrom_cons {predicate : Focus → Except QueryError Value} {size position : Nat} {n : Node}
    {rest : List Node} :
    keepFrom predicate size position (n :: rest) = do
      let keeps ← (predicate ⟨n, position, size⟩).map (·.keeps position)
      let kept ← keepFrom predicate size (position + 1) rest
      return if keeps then n :: kept else kept := by
  rw [keepFrom]
  cases predicate ⟨n, position, size⟩ <;> rfl

/-- Two predicates that keep the same positions keep the same nodes. -/
theorem keepFrom_congr {predicate predicate' : Focus → Except QueryError Value}
    {size position : Nat} {nodes : List Node}
    (h : ∀ n ∈ nodes, ∀ position,
      (predicate ⟨n, position, size⟩).map (·.keeps position) =
        (predicate' ⟨n, position, size⟩).map (·.keeps position)) :
    keepFrom predicate size position nodes = keepFrom predicate' size position nodes := by
  induction nodes generalizing position with
  | nil => rfl
  | cons n rest ih =>
    rw [keepFrom_cons, keepFrom_cons, h n List.mem_cons_self position,
      ih fun m hm => h m (List.mem_cons_of_mem n hm)]

theorem Counted.keepWhere_eq {p q : Expr} (h : Counted top p q) {nodes : List Node}
    (inside : ∀ n ∈ nodes, n.document = top) :
    keepWhere (fun focus => p.eval top focus) nodes =
      keepWhere (fun focus => q.eval top focus) nodes :=
  keepFrom_congr fun n hn position => h.map_keeps ⟨n, position, _⟩ (inside n hn)

theorem evalPredicates_of_counted {ps qs : List Expr} (h : List.Forall₂ (Counted top) ps qs)
    {nodes : List Node} (inside : ∀ n ∈ nodes, n.document = top) :
    evalPredicates top ps nodes = evalPredicates top qs nodes := by
  induction h generalizing nodes with
  | nil => rfl
  | @cons p q ps qs hpq _ ih =>
    rw [evalPredicates, evalPredicates, hpq.keepWhere_eq inside]
    cases hkept : keepWhere (fun focus => q.eval top focus) nodes with
    | error e => rfl
    | ok kept => exact ih fun n hn => inside n ((sublist_of_keepFrom hkept).subset hn)

theorem collect_congr {select select' : Node → Except QueryError (List Node)} {nodes : List Node}
    (h : ∀ n ∈ nodes, select n = select' n) : collect select nodes = collect select' nodes := by
  induction nodes with
  | nil => rfl
  | cons n rest ih =>
    rw [collect, collect, h n List.mem_cons_self, ih fun m hm => h m (List.mem_cons_of_mem n hm)]

theorem Step.eval_of_counted {ps qs : List Expr} (h : List.Forall₂ (Counted top) ps qs)
    {axis : Axis} {test : NodeTest} {nodes : List Node} (inside : ∀ n ∈ nodes, n.document = top) :
    (Step.mk axis test ps).eval top nodes = (Step.mk axis test qs).eval top nodes := by
  have hselect : ∀ n ∈ nodes, (Step.mk axis test ps).select top n =
      (Step.mk axis test qs).select top n := by
    intro n hn
    refine evalPredicates_of_counted h fun m hm => ?_
    exact (Axis.document_of_mem (List.mem_of_mem_filter hm)).trans (inside n hn)
  rw [Step.eval_eq, Step.eval_eq, collect_congr hselect]

theorem Expr.eval_filter_of_counted {ps qs : List Expr} (h : List.Forall₂ (Counted top) ps qs)
    {e : Expr} {steps : List Step} {focus : Focus} (inside : focus.node.document = top) :
    (Expr.filter e ps steps).eval top focus = (Expr.filter e qs steps).eval top focus := by
  rw [Expr.eval, Expr.eval]
  cases he : e.eval top focus with
  | error _ => rfl
  | ok v =>
    cases v with
    | nodeSet nodes =>
      have hkept := evalPredicates_of_counted h (isNodeSet_of_eval inside he).inside
      simp only [ok_bind, Value.nodes, hkept]
    | _ => rfl

end Counted

/-- Predicates count by proximity.  A step with the digits of a number for its predicate leads to
the node of that number among those of its axis that pass its test.  On a forward axis they are
counted in the order of the document, on a reverse axis against it, and where there are too few the
step leads nowhere.  `last()` leads to the last of them.  Behind an expression in parentheses the
digits count in the order of the document, whatever axes the expression uses.  And an expression
that is always a number may be replaced by its comparison with `position()`, at any place in a chain
of predicates, in a step or in a filter. -/
theorem predicates_count_by_proximity :
    (∀ (axis : Axis) (test : NodeTest) (n top : Node) (k position size : Nat), 0 < k →
      (axisNodes axis test n).length < 2 ^ 53 →
        ∃ ordered, IsNodeSet n.document ordered ∧
          (∀ m, m ∈ ordered ↔ axis.Leads n m ∧ test.passes axis m = true) ∧
          axisNodes axis test n = (if axis.isReverse then ordered.reverse else ordered) ∧
          (Expr.path false [.mk axis test [.written k]]).eval top ⟨n, position, size⟩ =
            .ok (.nodeSet
              (if axis.isReverse then ordered.reverse[k - 1]? else ordered[k - 1]?).toList) ∧
          (Expr.path false [.mk axis test [.call .last []]]).eval top ⟨n, position, size⟩ =
            .ok (.nodeSet
              (if axis.isReverse then ordered.head? else ordered.getLast?).toList)) ∧
    (∀ (e : Expr) (focus : Focus) (ns : List Node) (k : Nat), 0 < k → ns.length < 2 ^ 53 →
      e.eval focus.node.document focus = .ok (.nodeSet ns) →
        IsNodeSet focus.node.document ns ∧
          (Expr.filter e [.written k] []).eval focus.node.document focus =
            .ok (.nodeSet ns[k - 1]?.toList)) ∧
    ∀ (top : Node) (ps qs : List Expr), List.Forall₂ (Counted top) ps qs →
      (∀ nodes : List Node, (∀ n ∈ nodes, n.document = top) →
        evalPredicates top ps nodes = evalPredicates top qs nodes ∧
          ∀ axis test,
            (Step.mk axis test ps).eval top nodes = (Step.mk axis test qs).eval top nodes) ∧
        ∀ e steps focus, focus.node.document = top →
          (Expr.filter e ps steps).eval top focus = (Expr.filter e qs steps).eval top focus := by
  refine ⟨?_, ?_, ?_⟩
  · intro axis test n top k position size hk hsize
    obtain ⟨ordered, hset, hmem, horder⟩ := exists_ordered axis test n
    have hpath : ∀ {s : Step} {out : List Node}, s.eval top [n] = .ok out →
        (Expr.path false [s]).eval top ⟨n, position, size⟩ = .ok (.nodeSet out) := by
      intro s out hs
      rw [Expr.eval, if_neg Bool.false_ne_true, evalSteps, hs, ok_bind, evalSteps]
      rfl
    refine ⟨ordered, hset, hmem, horder, hpath ?_, hpath ?_⟩
    · rw [Step.eval_of_picks (picks_written hk hsize) fun _ => hk, horder]
      split <;> rfl
    · rw [Step.eval_of_picks (picks_last hsize) List.length_pos_iff.mpr,
        ← List.getLast?_eq_getElem?, horder]
      split
      · rw [List.getLast?_reverse]
      · rfl
  · intro e focus ns k hk hsize he
    refine ⟨isNodeSet_of_eval rfl he, ?_⟩
    have hkept : evalPredicates focus.node.document [.written k] ns = .ok ns[k - 1]?.toList := by
      have hpicks : Picks (fun focus' => (Expr.written k).eval focus.node.document focus')
          ns.length k := picks_written hk hsize
      rw [evalPredicates, keepWhere_of_picks hpicks fun _ => hk, ok_bind, evalPredicates]
    exact Expr.eval_filter.mpr ⟨ns, _, _, he, hkept, by rw [evalSteps], rfl⟩
  · intro top ps qs h
    refine ⟨fun nodes inside => ⟨evalPredicates_of_counted h inside, fun axis test => ?_⟩, ?_⟩
    · exact Step.eval_of_counted h inside
    · intro e steps focus inside
      exact Expr.eval_filter_of_counted h inside

/-- From the `b` the first ancestor is the `a` and not the document, which comes first in the order
of the page. -/
theorem predicates_count_by_proximity_smallPage :
    let below := Expr.path false [.mk .descendant .any []]
    let focus : Focus := ⟨smallPage, 1, 1⟩
    (∃ (b : Node) (ordered : List Node), smallPage.descendants[1]? = some b ∧
      b.tagName? = some "b" ∧ axisNodes .ancestor .node b = ordered.reverse ∧
      ordered.map Node.tagName? = [none, some "a"] ∧
      (Expr.path false [.mk .ancestor .node [.written 1]]).eval smallPage ⟨b, 1, 1⟩ =
        .ok (.nodeSet ordered.reverse[0]?.toList)) ∧
    (∃ ordered, axisNodes .descendant .any smallPage = ordered ∧
      (Expr.path false [.mk .descendant .any [.written 2]]).eval smallPage focus =
        .ok (.nodeSet ordered[1]?.toList) ∧
      (ordered[1]?.bind Node.tagName?) = some "b") ∧
    (∃ ns, below.eval smallPage focus = .ok (.nodeSet ns) ∧
      (Expr.filter below [.written 2] []).eval smallPage focus = .ok (.nodeSet ns[1]?.toList)) ∧
    evalPredicates smallPage [.written 1] [smallPage] =
      evalPredicates smallPage [(Expr.written 1).positionIs] [smallPage] := by
  intro below focus
  obtain ⟨hstep, hfilter, hchain⟩ := predicates_count_by_proximity
  have hnumber : Counted smallPage (.written 1) (Expr.written 1).positionIs :=
    .inr ⟨fun _ _ => ⟨_, rfl⟩, rfl⟩
  refine ⟨?_, ⟨_, rfl, ?_, by cbv⟩, ⟨_, rfl, ?_⟩, ?_⟩
  · obtain ⟨b, hb, htag, hlength, htags⟩ : ∃ b, smallPage.descendants[1]? = some b ∧
        b.tagName? = some "b" ∧ (axisNodes .ancestor .node b).length < 2 ^ 53 ∧
        (axisNodes .ancestor .node b).reverse.map Node.tagName? = [none, some "a"] :=
      ⟨_, rfl, by cbv, by cbv, by cbv⟩
    obtain ⟨ordered, -, -, horder, hpath, -⟩ :=
      hstep .ancestor .node b smallPage 1 1 1 (by decide) hlength
    have hreverse : axisNodes .ancestor .node b = ordered.reverse := horder
    rw [hreverse, List.reverse_reverse] at htags
    exact ⟨b, ordered, hb, htag, hreverse, htags, hpath⟩
  · obtain ⟨ordered, -, -, horder, hpath, -⟩ :=
      hstep .descendant .any smallPage smallPage 2 1 1 (by decide) (by cbv)
    rw [horder]
    exact hpath
  · exact (hfilter below focus _ 2 (by decide) (by cbv) rfl).2
  · exact ((hchain smallPage _ _ (.cons hnumber .nil)).1 [smallPage]
      (List.forall_mem_singleton.mpr rfl)).1

end HtmlQuery
