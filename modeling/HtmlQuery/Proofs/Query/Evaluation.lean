import HtmlQuery.Proofs.Query.Axis
import HtmlQuery.Query.Basic

/-!
# Node-sets stay node-sets

Evaluation hands lists of nodes from step to step, and each of them is a node-set: in the order of
the document, without duplicates, inside the tree of the focus.  Predicates only leave nodes out
(`sublist_of_evalPredicates`), so what matters is the order in which the axes come and how lists are
put together.

`stepFrom_eq` says that the way taken for a single node, where the axis is only turned round, gives
what sorting gives.  So a step is one rule for all lists, `Step.eval_eq`: collect what each node
yields, then sort.  From there the invariant goes through steps (`isNodeSet_of_evalSteps`) and
expressions (`isNodeSet_of_eval`).
-/

namespace HtmlQuery

/-! ## Outcomes -/

section Outcome

variable {ε α β : Type}

theorem ok_bind {a : α} {f : α → Except ε β} : (Except.ok a >>= f) = f a :=
  rfl

theorem bind_eq_ok {x : Except ε α} {f : α → Except ε β} {b : β} :
    (x >>= f) = .ok b ↔ ∃ a, x = .ok a ∧ f a = .ok b := by
  cases x with
  | error e => simp [bind, Except.bind]
  | ok a => simp [bind, Except.bind]

theorem pure_eq_ok {a b : α} : (pure a : Except ε α) = .ok b ↔ a = b :=
  Except.ok.injEq a b ▸ Iff.rfl

theorem map_eq_ok {f : α → β} {x : Except ε α} {b : β} :
    x.map f = .ok b ↔ ∃ a, x = .ok a ∧ f a = b := by
  cases x with
  | error e => simp [Except.map]
  | ok a => simp [Except.map]

end Outcome

/-! ## Filters -/

theorem sublist_of_keepFrom {predicate : Focus → Except QueryError Value} {size position : Nat}
    {nodes kept : List Node} (h : keepFrom predicate size position nodes = .ok kept) :
    kept.Sublist nodes := by
  induction nodes generalizing position kept with
  | nil =>
    cases h
    exact .slnil
  | cons n rest ih =>
    simp only [keepFrom, bind_eq_ok, pure_eq_ok] at h
    obtain ⟨v, -, more, hmore, rfl⟩ := h
    split
    · exact .cons_cons n (ih hmore)
    · exact .cons n (ih hmore)

/-- Predicates only leave nodes out. -/
theorem sublist_of_evalPredicates {top : Node} {predicates : List Expr} {nodes kept : List Node}
    (h : evalPredicates top predicates nodes = .ok kept) : kept.Sublist nodes := by
  induction predicates generalizing nodes with
  | nil =>
    rw [evalPredicates] at h
    cases h
    exact .refl _
  | cons e es ih =>
    simp only [evalPredicates, bind_eq_ok] at h
    obtain ⟨some, hsome, h⟩ := h
    exact (ih h).trans (sublist_of_keepFrom hsome)

/-- What a step yields from one node, in axis order. -/
def Step.select (top : Node) : Step → Node → Except QueryError (List Node)
  | .mk axis test predicates, n => evalPredicates top predicates (axisNodes axis test n)

/-- The axis of a step. -/
def Step.axis : Step → Axis
  | .mk axis _ _ => axis

theorem Step.sublist_of_select {top n : Node} {s : Step} {selected : List Node}
    (h : s.select top n = .ok selected) : selected.Sublist (s.axis.nodes n) := by
  obtain ⟨axis, test, predicates⟩ := s
  exact (sublist_of_evalPredicates h).trans List.filter_sublist

theorem Step.document_of_select {top n m : Node} {s : Step} {selected : List Node}
    (h : s.select top n = .ok selected) (hm : m ∈ selected) : m.document = n.document :=
  Axis.document_of_mem ((sublist_of_select h).subset hm)

/-! ## Steps -/

/-- What is collected is what the nodes yield. -/
theorem mem_of_collect {select : Node → Except QueryError (List Node)} {nodes out : List Node}
    (h : collect select nodes = .ok out) {m : Node} :
    m ∈ out ↔ ∃ n ∈ nodes, ∃ l, select n = .ok l ∧ m ∈ l := by
  induction nodes generalizing out with
  | nil =>
    cases h
    simp
  | cons n rest ih =>
    simp only [collect, bind_eq_ok, pure_eq_ok] at h
    obtain ⟨first, hfirst, more, hmore, rfl⟩ := h
    simp [ih hmore, hfirst]

theorem collect_ok_iff {select : Node → Except QueryError (List Node)} {nodes : List Node} :
    (∃ out, collect select nodes = .ok out) ↔ ∀ n ∈ nodes, ∃ l, select n = .ok l := by
  induction nodes with
  | nil => simp [collect]
  | cons n rest ih =>
    simp only [collect, bind_eq_ok, pure_eq_ok, List.forall_mem_cons, ← ih]
    constructor
    · rintro ⟨out, first, hfirst, more, hmore, -⟩
      exact ⟨⟨first, hfirst⟩, more, hmore⟩
    · rintro ⟨⟨first, hfirst⟩, more, hmore⟩
      exact ⟨_, first, hfirst, more, hmore, rfl⟩

/-- What one node yields is turned into the order of the document by turning a reverse axis
round. -/
theorem isNodeSet_of_sublist {axis : Axis} {n : Node} {selected : List Node}
    (h : selected.Sublist (axis.nodes n)) :
    IsNodeSet n.document (if axis.isReverse then selected.reverse else selected) := by
  have hn := axis.isNodeSet_ordered n
  rw [Axis.ordered] at hn
  split at hn
  next hr =>
    rw [if_pos hr]
    exact hn.sublist h.reverse
  next hr =>
    rw [if_neg hr]
    exact hn.sublist h

/-- The way taken for a single node gives what sorting gives. -/
theorem stepFrom_eq {axis : Axis} {select : Node → Except QueryError (List Node)}
    {nodes : List Node}
    (sublist : ∀ n ∈ nodes, ∀ l, select n = .ok l → l.Sublist (axis.nodes n)) :
    stepFrom axis select nodes = (collect select nodes).map sortedByRank := by
  rw [stepFrom]
  match nodes with
  | [] => rfl
  | [n] =>
    simp only [collect]
    cases hs : select n with
    | error e => rfl
    | ok selected =>
      have hset := isNodeSet_of_sublist (sublist n (List.mem_singleton_self n) selected hs)
      have hsort : sortedByRank selected =
          if axis.isReverse then selected.reverse else selected := by
        refine hset.sortedByRank_eq fun m => ?_
        split <;> simp
      show Except.ok (if axis.isReverse then (selected ++ []).reverse else selected ++ []) =
        Except.ok (sortedByRank (selected ++ []))
      rw [List.append_nil, hsort]
  | n :: m :: rest =>
    show (collect select (n :: m :: rest) >>= fun l => .ok (sortedByRank l)) = _
    cases collect select (n :: m :: rest) <;> rfl

/-- A step collects what the nodes yield and sorts it. -/
theorem Step.eval_eq (s : Step) (top : Node) (nodes : List Node) :
    s.eval top nodes = (collect (s.select top) nodes).map sortedByRank := by
  obtain ⟨axis, test, predicates⟩ := s
  rw [eval]
  exact stepFrom_eq fun n _ l hl => sublist_of_select (s := .mk axis test predicates) hl

/-- A step yields a node-set of the nodes that it selects from those of its list. -/
theorem Step.spec_eval {s : Step} {top : Node} {nodes out : List Node}
    (inside : ∀ n ∈ nodes, n.document = top) (h : s.eval top nodes = .ok out) :
    IsNodeSet top out ∧ ∀ m, m ∈ out ↔ ∃ n ∈ nodes, ∃ l, s.select top n = .ok l ∧ m ∈ l := by
  rw [eval_eq, map_eq_ok] at h
  obtain ⟨all, hall, rfl⟩ := h
  have hin : ∀ m ∈ all, m.document = top := by
    intro m hm
    obtain ⟨n, hn, l, hl, hml⟩ := (mem_of_collect hall).mp hm
    exact (document_of_select hl hml).trans (inside n hn)
  exact ⟨isNodeSet_sortedByRank hin, fun m => (mem_sortedByRank hin).trans (mem_of_collect hall)⟩

theorem isNodeSet_of_evalSteps {top : Node} {steps : List Step} {nodes out : List Node}
    (hn : IsNodeSet top nodes) (h : evalSteps top steps nodes = .ok out) : IsNodeSet top out := by
  induction steps generalizing nodes with
  | nil =>
    rw [evalSteps] at h
    cases h
    exact hn
  | cons s ss ih =>
    simp only [evalSteps, bind_eq_ok] at h
    obtain ⟨mid, hmid, h⟩ := h
    exact ih (Step.spec_eval hn.inside hmid).1 h

/-- A step sorts, so it does not matter in what order the nodes are that it starts at. -/
theorem isNodeSet_of_evalSteps_cons {top : Node} {s : Step} {ss : List Step}
    {nodes out : List Node} (inside : ∀ n ∈ nodes, n.document = top)
    (h : evalSteps top (s :: ss) nodes = .ok out) : IsNodeSet top out := by
  simp only [evalSteps, bind_eq_ok] at h
  obtain ⟨mid, hmid, h⟩ := h
  exact isNodeSet_of_evalSteps (Step.spec_eval inside hmid).1 h

/-! ## Expressions -/

theorem Value.nodes_eq_ok {usage : NodeSetUse} {v : Value} {nodes : List Node} :
    v.nodes usage = .ok nodes ↔ v = .nodeSet nodes := by
  cases v <;> simp [Value.nodes]

/-- The nodes that two lists have between them, as a node-set. -/
theorem mem_union {top : Node} {ls rs : List Node} (hl : IsNodeSet top ls) (hr : IsNodeSet top rs) :
    IsNodeSet top (sortedByRank (ls ++ rs)) ∧
      ∀ m, m ∈ sortedByRank (ls ++ rs) ↔ m ∈ ls ∨ m ∈ rs := by
  have inside : ∀ m ∈ ls ++ rs, m.document = top := by
    intro m hm
    rcases List.mem_append.mp hm with hm | hm
    · exact hl.inside m hm
    · exact hr.inside m hm
  refine ⟨isNodeSet_sortedByRank inside, fun m => ?_⟩
  rw [mem_sortedByRank inside, List.mem_append]

theorem Expr.eval_union {top : Node} {left right : Expr} {focus : Focus} {v : Value} :
    (Expr.union left right).eval top focus = .ok v ↔
      ∃ ls rs, left.eval top focus = .ok (.nodeSet ls) ∧ right.eval top focus = .ok (.nodeSet rs) ∧
        v = .nodeSet (sortedByRank (ls ++ rs)) := by
  simp only [eval, bind_eq_ok, pure_eq_ok, Value.nodes_eq_ok]
  constructor
  · rintro ⟨_, hl, ls, rfl, _, hr, rs, rfl, rfl⟩
    exact ⟨ls, rs, hl, hr, rfl⟩
  · rintro ⟨ls, rs, hl, hr, rfl⟩
    exact ⟨_, hl, ls, rfl, _, hr, rs, rfl, rfl⟩

theorem Expr.eval_filter {top : Node} {primary : Expr} {predicates : List Expr} {steps : List Step}
    {focus : Focus} {v : Value} :
    (Expr.filter primary predicates steps).eval top focus = .ok v ↔
      ∃ nodes kept out, primary.eval top focus = .ok (.nodeSet nodes) ∧
        evalPredicates top predicates nodes = .ok kept ∧ evalSteps top steps kept = .ok out ∧
          v = .nodeSet out := by
  simp only [eval, bind_eq_ok, pure_eq_ok, Value.nodes_eq_ok]
  constructor
  · rintro ⟨_, hp, nodes, rfl, kept, hk, out, ho, rfl⟩
    exact ⟨nodes, kept, out, hp, hk, ho, rfl⟩
  · rintro ⟨nodes, kept, out, hp, hk, ho, rfl⟩
    exact ⟨_, hp, nodes, rfl, kept, hk, out, ho, rfl⟩

/-- No function gives nodes. -/
theorem Function.apply_ne_nodeSet {function : Function} {focus : Focus} {args : List Value}
    {ns : List Node} : function.apply focus args ≠ .ok (.nodeSet ns) := by
  intro h
  cases function <;> simp only [apply, bind_eq_ok, pure_eq_ok] at h <;> simp at h

/-- Apart from `or` and `and`, an operator works on the values of both sides. -/
theorem Expr.eval_binary_of_values {top : Node} {op : BinaryOp} {left right : Expr} {focus : Focus}
    {l r : Value} (hor : op ≠ .or) (hand : op ≠ .and) (hl : left.eval top focus = .ok l)
    (hr : right.eval top focus = .ok r) :
    (Expr.binary op left right).eval top focus =
      .ok (if op.isComparison then .boolean (compareValues op l r)
        else .number (arithmetic op l.toNumber r.toNumber)) := by
  rw [eval, hl, ok_bind, hr, ok_bind]
  · split <;> rfl
  · exact hor
  · exact hand

/-- No operator gives nodes. -/
theorem Expr.eval_binary_ne_nodeSet {top : Node} {op : BinaryOp} {left right : Expr} {focus : Focus}
    {ns : List Node} : (Expr.binary op left right).eval top focus ≠ .ok (.nodeSet ns) := by
  intro h
  match op with
  | .or | .and =>
    simp only [eval, bind_eq_ok] at h
    obtain ⟨l, -, h⟩ := h
    split at h
    all_goals simp [bind_eq_ok, pure_eq_ok, -bind_pure_comp] at h
  | .equal | .notEqual | .less | .lessEqual | .greater | .greaterEqual | .add | .subtract
  | .multiply | .divide | .modulo =>
    simp only [eval, bind_eq_ok] at h
    obtain ⟨l, -, r, -, h⟩ := h
    split at h
    all_goals simp [pure_eq_ok] at h

theorem Node.document_document (n : Node) : n.document.document = n.document :=
  congrArg Node.inner (Place.top_of_parent_none n.place.parent?_top)

/-- An expression whose value is a node-set gives nodes of the tree of its focus in the order of the
document, each of them once. -/
theorem isNodeSet_of_eval {top : Node} {e : Expr} {focus : Focus} {ns : List Node}
    (hf : focus.node.document = top) (h : e.eval top focus = .ok (.nodeSet ns)) :
    IsNodeSet top ns := by
  match e with
  | .number value => simp [Expr.eval] at h
  | .literal text => simp [Expr.eval] at h
  | .variable name position => simp [Expr.eval] at h
  | .negate operand =>
    simp only [Expr.eval, bind_eq_ok, pure_eq_ok] at h
    obtain ⟨v, -, h⟩ := h
    cases h
  | .binary op left right => exact absurd h Expr.eval_binary_ne_nodeSet
  | .union left right =>
    obtain ⟨ls, rs, hl, hr, hv⟩ := Expr.eval_union.mp h
    cases hv
    exact (mem_union (isNodeSet_of_eval hf hl) (isNodeSet_of_eval hf hr)).1
  | .path absolute steps =>
    simp only [Expr.eval, bind_eq_ok, pure_eq_ok] at h
    obtain ⟨out, hout, hv⟩ := h
    cases hv
    refine isNodeSet_of_evalSteps (.singleton ?_) hout
    split
    · rw [← hf, Node.document_document]
    · exact hf
  | .filter primary predicates steps =>
    obtain ⟨nodes, kept, out, hp, hk, ho, hv⟩ := Expr.eval_filter.mp h
    cases hv
    have hnodes := isNodeSet_of_eval hf hp
    exact isNodeSet_of_evalSteps (hnodes.sublist (sublist_of_evalPredicates hk)) ho
  | .call function arguments =>
    simp only [Expr.eval, bind_eq_ok] at h
    obtain ⟨args, -, h⟩ := h
    exact absurd h Function.apply_ne_nodeSet
termination_by e

/-! ## Queries -/

theorem Query.document_start (q : Query) (n : Node) : (q.start n).document = n.document := by
  rw [start]
  cases q.origin with
  | here => rfl
  | document => exact n.document_document

theorem Query.select_eq_ok {q : Query} {n : Node} {ns : List Node} :
    q.select n = .ok ns ↔ q.evaluate n = .ok (.nodeSet ns) := by
  simp only [select, bind_eq_ok]
  constructor
  · rintro ⟨v, hv, h⟩
    cases v with
    | nodeSet nodes => rwa [← pure_eq_ok.mp h]
    | boolean b => cases h
    | number x => cases h
    | string s => cases h
  · intro h
    exact ⟨_, h, rfl⟩

/-- What a query selects is a node-set of the tree that it is asked in. -/
theorem Query.isNodeSet_of_select {q : Query} {n : Node} {ns : List Node}
    (h : q.select n = .ok ns) : IsNodeSet n.document ns := by
  rw [select_eq_ok, evaluate, Expr.valueAt, document_start] at h
  exact isNodeSet_of_eval (q.document_start n) h

theorem IsNodeSet.head?_eq_some_iff {top m : Node} {ns : List Node} (h : IsNodeSet top ns) :
    ns.head? = some m ↔ m ∈ ns ∧ ∀ k ∈ ns, k = m ∨ m.Precedes k := by
  cases ns with
  | nil => simp
  | cons n rest =>
    have hfirst := (List.pairwise_cons.mp h.ascending).1
    have hrank := (List.pairwise_cons.mp h.pairwise_rank).1
    rw [List.head?_cons, Option.some.injEq]
    constructor
    · rintro rfl
      refine ⟨List.mem_cons_self, fun k hk => ?_⟩
      rcases List.mem_cons.mp hk with rfl | hk
      · exact .inl rfl
      · exact .inr (hfirst k hk)
    · rintro ⟨hm, hleast⟩
      rcases hleast n List.mem_cons_self with he | hlt
      · exact he
      · rcases List.mem_cons.mp hm with rfl | hm
        · rfl
        · have hd := (h.inside m (List.mem_cons_of_mem n hm)).trans
            (h.inside n List.mem_cons_self).symm
          have := (Node.precedes_iff_rank hd).mp hlt
          have := hrank m hm
          omega

/-- Node-sets are ordered.  Wherever an expression is evaluated, a node-set that it gives holds nodes
of the tree of the focus, in the order of the document and each of them once.  A step from a single
node, which does not sort, gives what sorting would have given.  And the first node that a query
selects is the one that comes before all others. -/
theorem nodeSet_ordered :
    (∀ (e : Expr) (focus : Focus) (ns : List Node),
      e.eval focus.node.document focus = .ok (.nodeSet ns) →
        Ascending ns ∧ ns.Nodup ∧ ∀ m ∈ ns, m.document = focus.node.document) ∧
    (∀ (s : Step) (top n : Node), s.eval top [n] = (s.select top n).map sortedByRank) ∧
    (∀ (q : Query) (n m : Node), q.selectFirst? n = .ok (some m) ↔
      ∃ ns, q.select n = .ok ns ∧ m ∈ ns ∧ ∀ k ∈ ns, k = m ∨ m.Precedes k) ∧
    ∀ (q : Query) (n : Node), q.selectFirst? n = .ok none ↔ q.select n = .ok [] := by
  refine ⟨fun e focus ns h => ?_, fun s top n => ?_, fun q n m => ?_, fun q n => ?_⟩
  · have hset := isNodeSet_of_eval rfl h
    exact ⟨hset.ascending, hset.nodup, hset.inside⟩
  · rw [s.eval_eq]
    cases hs : s.select top n with
    | error e => simp [collect, hs, bind, Except.bind, Except.map]
    | ok l => simp [collect, hs, bind, Except.bind, Except.map, pure, Except.pure]
  · simp only [Query.selectFirst?, bind_eq_ok, pure_eq_ok]
    constructor
    · rintro ⟨ns, hns, hm⟩
      exact ⟨ns, hns, (Query.isNodeSet_of_select hns).head?_eq_some_iff.mp hm⟩
    · rintro ⟨ns, hns, hm⟩
      exact ⟨ns, hns, (Query.isNodeSet_of_select hns).head?_eq_some_iff.mpr hm⟩
  · simp only [Query.selectFirst?, bind_eq_ok, pure_eq_ok, List.head?_eq_none_iff]
    constructor
    · rintro ⟨ns, hns, rfl⟩
      exact hns
    · intro h
      exact ⟨[], h, rfl⟩

/-- The top of the page `<a x="1"><b></b>u</a>`. -/
def smallPage : Node :=
  .inner (.ofTree ⟨0⟩ (.node .document
    [.node (.element .html "a" [⟨"x", "1", .plain⟩])
      [.node (.element .html "b" []) [], .node (.text "u") []]]))

theorem nodeSet_ordered_smallPage :
    let query := Expr.union (.path false [.mk .descendant (.name "b") []])
      (.path true [.mk .descendant (.name "a") []])
    ∃ ns, query.eval smallPage.document ⟨smallPage, 1, 1⟩ = .ok (.nodeSet ns) ∧
      ns.map Node.tagName? = [some "a", some "b"] ∧ Ascending ns ∧ ns.Nodup ∧
        ∀ m ∈ ns, m.document = smallPage.document := by
  intro query
  exact ⟨_, rfl, by cbv, nodeSet_ordered.1 query ⟨smallPage, 1, 1⟩ _ rfl⟩

end HtmlQuery
