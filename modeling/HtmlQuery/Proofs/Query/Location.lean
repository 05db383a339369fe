import HtmlQuery.Proofs.Query.Evaluation

/-!
# What location paths select

`Step.selection` says what a step selects from one node: its axis filtered by the test and then by
each predicate in turn, which counts positions from one in the order of the axis.  A path selects
the nodes at the end of a chain, one selection for each step (`Reaches`).

Evaluation works on whole lists, which it sorts between the steps.  `mem_evalSteps_iff` says that it
finds the ends of the chains and nothing else, and `exists_evalSteps_iff` that it fails only where
some chain comes upon a predicate that fails.  Both speak of the members of the lists only.  So paths
distribute over `|`, which is as free as a union of sets (`location_paths_relational`).
-/

namespace HtmlQuery

/-! ## What a step selects -/

/-- Whether a predicate has a value at a node, and one that keeps it. -/
def Expr.holds (top : Node) (e : Expr) (size : Nat) (n : Node) (position : Nat) : Bool :=
  match e.eval top ⟨n, position, size⟩ with
  | .ok v => v.keeps position
  | .error _ => false

/-- The nodes of a list at which a predicate holds, each at its position counted from one. -/
def keptNodes (top : Node) (nodes : List Node) (e : Expr) : List Node :=
  ((nodes.zipIdx 1).filter fun numbered => e.holds top nodes.length numbered.1 numbered.2).map (·.1)

/-- The nodes of a list that satisfy each predicate in turn, numbered anew before each. -/
def keptByAll (top : Node) (predicates : List Expr) (nodes : List Node) : List Node :=
  predicates.foldl (keptNodes top) nodes

/-- The nodes that a step selects from one node, in axis order. -/
def Step.selection (top : Node) : Step → Node → List Node
  | .mk axis test predicates, n =>
    keptByAll top predicates ((axis.nodes n).filter (test.passes axis))

theorem keepFrom_eq {top : Node} {e : Expr} {size position : Nat} {nodes kept : List Node}
    (h : keepFrom (fun focus => e.eval top focus) size position nodes = .ok kept) :
    kept = ((nodes.zipIdx position).filter fun numbered =>
      e.holds top size numbered.1 numbered.2).map (·.1) := by
  induction nodes generalizing position kept with
  | nil =>
    cases h
    rfl
  | cons n rest ih =>
    simp only [keepFrom, bind_eq_ok, pure_eq_ok] at h
    obtain ⟨v, hv, more, hmore, rfl⟩ := h
    have hholds : e.holds top size n position = v.keeps position := by
      rw [Expr.holds, hv]
    rw [List.zipIdx_cons, List.filter_cons, hholds]
    split
    · rw [List.map_cons, ih hmore]
    · exact ih hmore

theorem keptNodes_of_keepWhere {top : Node} {e : Expr} {nodes kept : List Node}
    (h : keepWhere (fun focus => e.eval top focus) nodes = .ok kept) :
    keptNodes top nodes e = kept :=
  (keepFrom_eq h).symm

theorem keptByAll_of_evalPredicates {top : Node} {predicates : List Expr} {nodes kept : List Node}
    (h : evalPredicates top predicates nodes = .ok kept) :
    keptByAll top predicates nodes = kept := by
  induction predicates generalizing nodes with
  | nil =>
    rw [evalPredicates] at h
    cases h
    rfl
  | cons e es ih =>
    simp only [evalPredicates, bind_eq_ok] at h
    obtain ⟨some, hsome, h⟩ := h
    rw [keptByAll, List.foldl_cons, keptNodes_of_keepWhere hsome]
    exact ih h

/-- Where no predicate fails, a step yields its selection. -/
theorem Step.selection_of_select {top n : Node} {s : Step} {l : List Node}
    (h : s.select top n = .ok l) : s.selection top n = l := by
  obtain ⟨axis, test, predicates⟩ := s
  exact keptByAll_of_evalPredicates h

/-! ## Chains -/

/-- Steps lead from a node to another one: a chain with one selection for each step. -/
inductive Reaches (top : Node) : List Step → Node → Node → Prop where
  /-- Without steps a node leads to itself. -/
  | here (n : Node) : Reaches top [] n n
  /-- The first step selects a node from which the others lead on. -/
  | step {s : Step} {ss : List Step} {n k m : Node} :
    k ∈ s.selection top n → Reaches top ss k m → Reaches top (s :: ss) n m

theorem reaches_nil {top n m : Node} : Reaches top [] n m ↔ n = m := by
  constructor
  · rintro ⟨⟩
    rfl
  · rintro rfl
    exact .here n

theorem reaches_cons {top n m : Node} {s : Step} {ss : List Step} :
    Reaches top (s :: ss) n m ↔ ∃ k ∈ s.selection top n, Reaches top ss k m := by
  constructor
  · rintro (_ | ⟨hk, h⟩)
    exact ⟨_, hk, h⟩
  · rintro ⟨k, hk, h⟩
    exact .step hk h

/-- No predicate fails on a chain from a node. -/
def Runs (top : Node) : List Step → Node → Prop
  | [], _ => True
  | s :: ss, n => ∃ l, s.select top n = .ok l ∧ ∀ m ∈ l, Runs top ss m

section Steps

variable {top : Node} {steps : List Step} {nodes out : List Node}

/-- The result of steps is where their chains end. -/
theorem mem_evalSteps_iff (inside : ∀ n ∈ nodes, n.document = top)
    (h : evalSteps top steps nodes = .ok out) {m : Node} :
    m ∈ out ↔ ∃ n ∈ nodes, Reaches top steps n m := by
  induction steps generalizing nodes with
  | nil =>
    rw [evalSteps] at h
    cases h
    simp [reaches_nil]
  | cons s ss ih =>
    simp only [evalSteps, bind_eq_ok] at h
    obtain ⟨mid, hmid, h⟩ := h
    obtain ⟨hset, hmem⟩ := Step.spec_eval inside hmid
    rw [ih hset.inside h]
    constructor
    · rintro ⟨k, hk, hreach⟩
      obtain ⟨n, hn, l, hl, hkl⟩ := (hmem k).mp hk
      exact ⟨n, hn, .step (Step.selection_of_select hl ▸ hkl) hreach⟩
    · rintro ⟨n, hn, hreach⟩
      obtain ⟨k, hk, hreach⟩ := reaches_cons.mp hreach
      -- The step succeeded, so what it yields from `n` is its selection.
      rw [Step.eval_eq, map_eq_ok] at hmid
      obtain ⟨all, hall, -⟩ := hmid
      obtain ⟨l, hl⟩ := collect_ok_iff.mp ⟨all, hall⟩ n hn
      exact ⟨k, (hmem k).mpr ⟨n, hn, l, hl, Step.selection_of_select hl ▸ hk⟩, hreach⟩

/-- Steps fail only where a predicate fails on a chain. -/
theorem exists_evalSteps_iff (inside : ∀ n ∈ nodes, n.document = top) :
    (∃ out, evalSteps top steps nodes = .ok out) ↔ ∀ n ∈ nodes, Runs top steps n := by
  induction steps generalizing nodes with
  | nil => simp [evalSteps, Runs]
  | cons s ss ih =>
    simp only [evalSteps, bind_eq_ok, Runs]
    constructor
    · rintro ⟨out, mid, hmid, h⟩ n hn
      obtain ⟨hset, hmem⟩ := Step.spec_eval inside hmid
      have hrun := (ih hset.inside).mp ⟨out, h⟩
      rw [Step.eval_eq, map_eq_ok] at hmid
      obtain ⟨all, hall, -⟩ := hmid
      obtain ⟨l, hl⟩ := collect_ok_iff.mp ⟨all, hall⟩ n hn
      exact ⟨l, hl, fun m hm => hrun m ((hmem m).mpr ⟨n, hn, l, hl, hm⟩)⟩
    · intro hrun
      obtain ⟨all, hall⟩ := collect_ok_iff.mpr fun n hn =>
        (hrun n hn).imp fun _ h => h.1
      have hmid : s.eval top nodes = .ok (sortedByRank all) := by
        rw [Step.eval_eq, hall]
        rfl
      obtain ⟨hset, hmem⟩ := Step.spec_eval inside hmid
      obtain ⟨out, h⟩ := (ih hset.inside).mpr fun m hm => by
        obtain ⟨n, hn, l, hl, hml⟩ := (hmem m).mp hm
        obtain ⟨l', hl', hruns⟩ := hrun n hn
        exact hruns m (Except.ok.inj (hl.symm.trans hl') ▸ hml)
      exact ⟨out, _, hmid, h⟩

/-- The result of steps from a node-set is the node-set of the ends of their chains, if no
predicate fails on one. -/
theorem evalSteps_eq_ok_iff (hn : IsNodeSet top nodes) :
    evalSteps top steps nodes = .ok out ↔
      (∀ n ∈ nodes, Runs top steps n) ∧ IsNodeSet top out ∧
        ∀ m, m ∈ out ↔ ∃ n ∈ nodes, Reaches top steps n m := by
  rw [← exists_evalSteps_iff hn.inside]
  constructor
  · intro h
    exact ⟨⟨out, h⟩, isNodeSet_of_evalSteps hn h, fun m => mem_evalSteps_iff hn.inside h⟩
  · rintro ⟨⟨out', h⟩, hset, hmem⟩
    rw [h, (isNodeSet_of_evalSteps hn h).ext hset fun m => ?_]
    rw [mem_evalSteps_iff hn.inside h, hmem]

theorem evalSteps_append {more : List Step} :
    evalSteps top (steps ++ more) nodes = evalSteps top steps nodes >>= evalSteps top more := by
  induction steps generalizing nodes with
  | nil => rfl
  | cons s ss ih => simp only [List.cons_append, evalSteps, bind_assoc, ih]

end Steps

/-! ## Unions and paths behind them -/

/-- An expression with steps behind it.  Steps behind a path are more steps of it. -/
def Expr.followedBy (e : Expr) (steps : List Step) : Expr :=
  match e with
  | .path absolute first => .path absolute (first ++ steps)
  | .filter primary predicates first => .filter primary predicates (first ++ steps)
  | e => .filter e [] steps

section Laws

variable {top : Node} {a b : Expr} {steps : List Step} {focus : Focus} {ns : List Node}

theorem Expr.eval_filter_steps :
    (Expr.filter a [] steps).eval top focus = .ok (.nodeSet ns) ↔
      ∃ nodes, a.eval top focus = .ok (.nodeSet nodes) ∧ evalSteps top steps nodes = .ok ns := by
  rw [eval_filter]
  constructor
  · rintro ⟨nodes, kept, out, ha, hkept, hout, hv⟩
    rw [evalPredicates] at hkept
    cases hkept
    cases hv
    exact ⟨nodes, ha, hout⟩
  · rintro ⟨nodes, ha, hout⟩
    exact ⟨nodes, nodes, ns, ha, by rw [evalPredicates], hout, rfl⟩

/-- Steps behind an expression lead on from the nodes that it selects. -/
theorem Expr.eval_followedBy :
    (a.followedBy steps).eval top focus = .ok (.nodeSet ns) ↔
      ∃ nodes, a.eval top focus = .ok (.nodeSet nodes) ∧ evalSteps top steps nodes = .ok ns := by
  match a with
  | .path absolute first =>
    simp only [followedBy, eval, bind_eq_ok, pure_eq_ok, evalSteps_append, Value.nodeSet.injEq]
    constructor
    · rintro ⟨_, ⟨nodes, hfirst, hrest⟩, rfl⟩
      exact ⟨nodes, ⟨nodes, hfirst, rfl⟩, hrest⟩
    · rintro ⟨_, ⟨nodes, hfirst, rfl⟩, hrest⟩
      exact ⟨ns, ⟨nodes, hfirst, hrest⟩, rfl⟩
  | .filter primary predicates first =>
    simp only [followedBy, eval_filter, evalSteps_append, bind_eq_ok, Value.nodeSet.injEq]
    constructor
    · rintro ⟨nodes, kept, _, hp, hk, ⟨mid, hfirst, hrest⟩, rfl⟩
      exact ⟨mid, ⟨nodes, kept, mid, hp, hk, hfirst, rfl⟩, hrest⟩
    · rintro ⟨mid, ⟨nodes, kept, _, hp, hk, hfirst, rfl⟩, hrest⟩
      exact ⟨nodes, kept, ns, hp, hk, ⟨mid, hfirst, hrest⟩, rfl⟩
  | .number _ | .literal _ | .variable _ _ | .binary _ _ _ | .negate _ | .call _ _ | .union _ _ =>
    exact eval_filter_steps

/-- Two operands between them select a node-set with the members of both. -/
theorem Expr.eval_union_iff (hf : focus.node.document = top) :
    (a.union b).eval top focus = .ok (.nodeSet ns) ↔
      ∃ ls rs, a.eval top focus = .ok (.nodeSet ls) ∧ b.eval top focus = .ok (.nodeSet rs) ∧
        IsNodeSet top ns ∧ ∀ m, m ∈ ns ↔ m ∈ ls ∨ m ∈ rs := by
  rw [eval_union]
  refine exists₂_congr fun ls rs => and_congr_right fun ha => and_congr_right fun hb => ?_
  obtain ⟨hset, hmem⟩ := mem_union (isNodeSet_of_eval hf ha) (isNodeSet_of_eval hf hb)
  rw [Value.nodeSet.injEq]
  constructor
  · rintro rfl
    exact ⟨hset, hmem⟩
  · rintro ⟨hns, hmem'⟩
    exact hns.ext hset fun m => (hmem' m).trans (hmem m).symm

end Laws

/-- Two expressions select the same list of nodes wherever one of them selects any. -/
def SameSelection (a b : Expr) : Prop :=
  ∀ (focus : Focus) (ns : List Node),
    a.eval focus.node.document focus = .ok (.nodeSet ns) ↔
      b.eval focus.node.document focus = .ok (.nodeSet ns)

section Laws

variable {a b c : Expr} {steps : List Step}

/-- Steps behind a union lead on from both operands. -/
theorem sameSelection_union_followedBy :
    SameSelection ((a.union b).followedBy steps)
      ((a.followedBy steps).union (b.followedBy steps)) := by
  intro focus ns
  rw [Expr.eval_followedBy, Expr.eval_union_iff rfl]
  constructor
  · rintro ⟨nodes, hab, hout⟩
    obtain ⟨ls, rs, ha, hb, hset, hmem⟩ := (Expr.eval_union_iff rfl).mp hab
    obtain ⟨hruns, hns, hends⟩ := (evalSteps_eq_ok_iff hset).mp hout
    have hl := isNodeSet_of_eval rfl ha
    have hr := isNodeSet_of_eval rfl hb
    obtain ⟨louts, hlouts⟩ := (exists_evalSteps_iff hl.inside).mpr fun n hn =>
      hruns n ((hmem n).mpr (.inl hn))
    obtain ⟨routs, hrouts⟩ := (exists_evalSteps_iff hr.inside).mpr fun n hn =>
      hruns n ((hmem n).mpr (.inr hn))
    refine ⟨louts, routs, Expr.eval_followedBy.mpr ⟨ls, ha, hlouts⟩,
      Expr.eval_followedBy.mpr ⟨rs, hb, hrouts⟩, hns, fun m => ?_⟩
    rw [hends, mem_evalSteps_iff hl.inside hlouts, mem_evalSteps_iff hr.inside hrouts]
    simp only [hmem, or_and_right, exists_or]
  · rintro ⟨louts, routs, ha, hb, hns, hmem⟩
    obtain ⟨ls, ha, hlouts⟩ := Expr.eval_followedBy.mp ha
    obtain ⟨rs, hb, hrouts⟩ := Expr.eval_followedBy.mp hb
    have hl := isNodeSet_of_eval rfl ha
    have hr := isNodeSet_of_eval rfl hb
    obtain ⟨hset, hboth⟩ := mem_union hl hr
    refine ⟨_, (Expr.eval_union_iff rfl).mpr ⟨ls, rs, ha, hb, hset, hboth⟩, ?_⟩
    refine (evalSteps_eq_ok_iff hset).mpr ⟨fun n hn => ?_, hns, fun m => ?_⟩
    · rcases (hboth n).mp hn with hn | hn
      · exact (exists_evalSteps_iff hl.inside).mp ⟨louts, hlouts⟩ n hn
      · exact (exists_evalSteps_iff hr.inside).mp ⟨routs, hrouts⟩ n hn
    · rw [hmem, mem_evalSteps_iff hl.inside hlouts, mem_evalSteps_iff hr.inside hrouts]
      simp only [hboth, or_and_right, exists_or]

theorem sameSelection_union_comm : SameSelection (a.union b) (b.union a) := by
  have key : ∀ {x y : Expr} {focus : Focus} {ns : List Node},
      (x.union y).eval focus.node.document focus = .ok (.nodeSet ns) →
        (y.union x).eval focus.node.document focus = .ok (.nodeSet ns) := by
    intro x y focus ns h
    obtain ⟨ls, rs, hx, hy, hset, hmem⟩ := (Expr.eval_union_iff rfl).mp h
    exact (Expr.eval_union_iff rfl).mpr ⟨rs, ls, hy, hx, hset, fun m => (hmem m).trans or_comm⟩
  exact fun _ _ => ⟨key, key⟩

theorem sameSelection_union_assoc :
    SameSelection ((a.union b).union c) (a.union (b.union c)) := by
  intro focus ns
  rw [Expr.eval_union_iff rfl, Expr.eval_union_iff rfl]
  constructor
  · rintro ⟨abs, cs, hab, hc, hset, hmem⟩
    obtain ⟨as, bs, ha, hb, -, habs⟩ := (Expr.eval_union_iff rfl).mp hab
    obtain ⟨hbcset, hbcs⟩ := mem_union (isNodeSet_of_eval rfl hb) (isNodeSet_of_eval rfl hc)
    refine ⟨as, _, ha, (Expr.eval_union_iff rfl).mpr ⟨bs, cs, hb, hc, hbcset, hbcs⟩, hset, ?_⟩
    intro m
    rw [hmem, habs, hbcs, or_assoc]
  · rintro ⟨as, bcs, ha, hbc, hset, hmem⟩
    obtain ⟨bs, cs, hb, hc, -, hbcs⟩ := (Expr.eval_union_iff rfl).mp hbc
    obtain ⟨habset, habs⟩ := mem_union (isNodeSet_of_eval rfl ha) (isNodeSet_of_eval rfl hb)
    refine ⟨_, cs, (Expr.eval_union_iff rfl).mpr ⟨as, bs, ha, hb, habset, habs⟩, hc, hset, ?_⟩
    intro m
    rw [hmem, habs, hbcs, or_assoc]

theorem sameSelection_union_self : SameSelection (a.union a) a := by
  intro focus ns
  rw [Expr.eval_union_iff rfl]
  constructor
  · rintro ⟨ls, rs, hl, hr, hset, hmem⟩
    obtain rfl := Value.nodeSet.inj (Except.ok.inj (hl.symm.trans hr))
    rw [hl, hset.ext (isNodeSet_of_eval rfl hl) fun m => (hmem m).trans or_self_iff]
  · intro h
    exact ⟨ns, ns, h, h, isNodeSet_of_eval rfl h, fun m => or_self_iff.symm⟩

end Laws

/-- Location paths mean what their steps say.  Steps that succeed select the ends of the chains from
the nodes that they start at, and no other node.  A union has the nodes of its operands, both of
which have to be node-sets, and no other node.  So steps behind a union select what they select
behind each of its operands together, and `|` is commutative, associative and idempotent. -/
theorem location_paths_relational :
    (∀ (top : Node) (steps : List Step) (nodes out : List Node),
      (∀ n ∈ nodes, n.document = top) → evalSteps top steps nodes = .ok out →
        ∀ m, m ∈ out ↔ ∃ n ∈ nodes, Reaches top steps n m) ∧
    (∀ (left right : Expr) (focus : Focus) (v : Value),
      (left.union right).eval focus.node.document focus = .ok v →
        ∃ ls rs ns, left.eval focus.node.document focus = .ok (.nodeSet ls) ∧
          right.eval focus.node.document focus = .ok (.nodeSet rs) ∧ v = .nodeSet ns ∧
            ∀ m, m ∈ ns ↔ m ∈ ls ∨ m ∈ rs) ∧
    (∀ (a b : Expr) (steps : List Step),
      SameSelection ((a.union b).followedBy steps)
        ((a.followedBy steps).union (b.followedBy steps))) ∧
    (∀ a b : Expr, SameSelection (a.union b) (b.union a)) ∧
    (∀ a b c : Expr, SameSelection ((a.union b).union c) (a.union (b.union c))) ∧
    ∀ a : Expr, SameSelection (a.union a) a := by
  refine ⟨fun top steps nodes out inside h m => mem_evalSteps_iff inside h, ?_,
    fun _ _ _ => sameSelection_union_followedBy, fun _ _ => sameSelection_union_comm,
    fun _ _ _ => sameSelection_union_assoc, fun _ => sameSelection_union_self⟩
  intro left right focus v h
  obtain ⟨ls, rs, hl, hr, rfl⟩ := Expr.eval_union.mp h
  exact ⟨ls, rs, _, hl, hr, rfl,
    (mem_union (isNodeSet_of_eval rfl hl) (isNodeSet_of_eval rfl hr)).2⟩

/-- The children of both elements that are themselves called `b`. -/
theorem location_paths_smallPage :
    let steps : List Step :=
      [.mk .descendant .any [], .mk .child .node [.path false [.mk .self (.name "b") []]]]
    ∃ out, evalSteps smallPage steps [smallPage] = .ok out ∧
      out.map Node.tagName? = [some "b"] ∧
        ∀ m, m ∈ out ↔ ∃ n ∈ [smallPage], Reaches smallPage steps n m := by
  intro steps
  have inside : ∀ n ∈ [smallPage], n.document = smallPage := by
    simp only [List.mem_singleton, forall_eq]
    rfl
  exact ⟨_, rfl, by cbv, location_paths_relational.1 smallPage steps _ _ inside rfl⟩

end HtmlQuery
