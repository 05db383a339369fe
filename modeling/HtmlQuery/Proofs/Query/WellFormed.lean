import HtmlQuery.Proofs.Query.Rendering

/-!
# What the parser reads is well formed

A reading that succeeds tells something of the value: `Builds expr P` says that a parser reads only
expressions that satisfy `P`, and that it has counted their operators.  The loops of the parser take
a token in every round, so `Yields` speaks of states with at most so many tokens, and a loop is an
induction over that bound.

What is read where level `k` is wanted is well formed, and with the parentheses that it needs there
it nests less deep than allowed (`Fits`).  Parentheses that the text has beyond those only make it
nest deeper.  Whole expressions are read in brackets and parentheses, which no level does without;
13 stands for that place.  The induction is on the nesting that is left, as the parser recurses.

So an expression that is read passes every check that reading it from its own tokens needs, and in
this sense parsing and writing are inverse.
-/

namespace HtmlQuery

namespace Parser

/-! ## Counting while reading -/

/-- A state comes from another one by reading `n` operators. -/
structure Advances (s t : State) (n : Nat) : Prop where
  /-- No token is given back. -/
  length_le : t.tokens.length ≤ s.tokens.length
  /-- All operators are counted. -/
  operators_eq : t.operators = s.operators + n
  /-- There are never too many of them. -/
  within : s.operators ≤ maxOperators → t.operators ≤ maxOperators

theorem Advances.refl (s : State) : Advances s s 0 :=
  ⟨le_rfl, rfl, id⟩

/-- Operators that are read one after the other are counted together. -/
theorem Advances.trans {s t u : State} {m n : Nat} (h : Advances s t m) (h' : Advances t u n) :
    Advances s u (m + n) where
  length_le := h'.length_le.trans h.length_le
  operators_eq := by rw [h'.operators_eq, h.operators_eq, Nat.add_assoc]
  within := h'.within ∘ h.within

theorem advances_of_cons {s : State} {first : Located} {rest : List Located}
    (h : s.tokens = first :: rest) :
    rest.length < s.tokens.length ∧ Advances s { s with tokens := rest } 0 := by
  have hlt : rest.length < s.tokens.length := by
    rw [h]
    exact Nat.lt_succ_self _
  exact ⟨hlt, hlt.le, rfl, id⟩

/-- Skipping a symbol takes a token and counts no operator. -/
theorem advances_of_skip? {symbol : Symbol} {s t : State} (h : skip? symbol s = some t) :
    t.tokens.length < s.tokens.length ∧ Advances s t 0 := by
  obtain ⟨position, rest, hs, rfl⟩ := skip?_eq_some_iff.mp h
  exact advances_of_cons hs

/-- An outcome is an error or a value of some kind, which costs operators. -/
def Gives {α : Type} (s : State) (outcome : Except QueryError (α × State))
    (P : α → Nat → Prop) : Prop :=
  ∀ v t, outcome = .ok (v, t) → ∃ n, P v n ∧ Advances s t n

/-- From at most so many tokens a program reads only values of some kind. -/
def Yields {α : Type} (bound : Nat) (x : Run α) (P : α → Nat → Prop) : Prop :=
  ∀ s, s.tokens.length ≤ bound → Gives s (x s) P

section Rules

variable {α β : Type} {bound : Nat} {s s' t : State} {x y : Run α} {f : α → Run β} {v : α}
  {P P' : α → Nat → Prop} {Q : β → Nat → Prop} {symbol : Symbol}

theorem gives_error (e : QueryError) : Gives s (.error e) P :=
  nofun

theorem gives_fail (fault : Fault) : Gives s (s.fail fault) P :=
  nofun

theorem Gives.ok (h : P v 0) (ht : Advances s t 0) : Gives s (.ok (v, t)) P := by
  rintro _ _ ⟨⟩
  exact ⟨0, h, ht⟩

/-- What is read behind a token. -/
theorem Gives.behind (h : s'.tokens.length < s.tokens.length ∧ Advances s s' 0)
    (hs : s.tokens.length ≤ bound) (hy : ∀ b < bound, Yields b y P) : Gives s (y s') P := by
  intro v t hrun
  obtain ⟨n, hn, ht⟩ := hy s'.tokens.length (h.1.trans_le hs) s' le_rfl v t hrun
  exact ⟨n, hn, Nat.zero_add n ▸ h.2.trans ht⟩

theorem Yields.imp (h : Yields bound x P) (hP : ∀ v n, P v n → P' v n) : Yields bound x P' := by
  intro s hs v t hrun
  obtain ⟨n, hn, hst⟩ := h s hs v t hrun
  exact ⟨n, hP v n hn, hst⟩

theorem Yields.pure (h : P v 0) : Yields bound (pure v) P :=
  fun s _ => .ok h (.refl s)

/-- Two programs in a row cost what both cost together. -/
theorem Yields.bind (h : Yields bound x P)
    (h' : ∀ v n, P v n → Yields bound (f v) fun w m => Q w (n + m)) :
    Yields bound (x >>= f) Q := by
  intro s hs w u hrun
  obtain ⟨⟨v, t⟩, hv, hw⟩ := run_bind_eq_ok.mp hrun
  obtain ⟨n, hn, hst⟩ := h s hs v t hv
  obtain ⟨m, hm, htu⟩ := h' v n hn t (hst.length_le.trans hs) w u hw
  exact ⟨n + m, hm, hst.trans htu⟩

theorem Yields.map {g : α → β} (h : Yields bound x P) (hQ : ∀ v n, P v n → Q (g v) n) :
    Yields bound (x >>= fun v => Pure.pure (g v)) Q :=
  h.bind fun v n hv => .pure (hQ v n hv)

/-- What costs nothing and tells nothing, and what is read then. -/
theorem Yields.andThen (h : Yields bound x fun _ n => n = 0) (h' : ∀ v, Yields bound (f v) Q) :
    Yields bound (x >>= f) Q := by
  refine h.bind ?_
  rintro v _ rfl
  simpa only [Nat.zero_add] using h' v

theorem yields_expect (symbol : Symbol) (fault : Fault) :
    Yields bound (run (expect symbol fault)) fun _ n => n = 0 := by
  intro s _
  rw [run_expect]
  split
  next s' hskip => exact .ok rfl (advances_of_skip? hskip).2
  next => exact gives_fail _

/-- What is read before a closing symbol. -/
theorem Yields.closed (h : Yields bound x P) (symbol : Symbol) (fault : Fault)
    (h' : ∀ v n, P v n → Yields bound (f v) fun w m => Q w (n + m)) :
    Yields bound (do let v ← x; let _ ← run (expect symbol fault); f v) Q :=
  h.bind fun v n hv => (yields_expect symbol fault).andThen fun _ => h' v n hv

theorem yields_count : Yields bound count fun _ n => n = 1 := by
  intro s _ v t hrun
  rw [count, countOperator] at hrun
  split at hrun
  next => cases hrun
  next hlt =>
    cases hrun
    exact ⟨1, rfl, le_rfl, rfl, fun _ => Nat.succ_le_of_lt (Nat.lt_of_not_le hlt)⟩

end Rules

/-! ## Parts of a path -/

/-- A parser reads expressions of some kind, and counts their operators. -/
def Builds (expr : Parse Expr) (P : Expr → Prop) : Prop :=
  ∀ bound, Yields bound (run expr) fun e n => P e ∧ e.operators = n

theorem Builds.imp {expr : Parse Expr} {P Q : Expr → Prop} (h : Builds expr P)
    (hPQ : ∀ e, P e → Q e) : Builds expr Q :=
  fun bound => (h bound).imp fun e _ he => ⟨hPQ e he.1, he.2⟩

/-- The abbreviated steps have nothing that could be tested wrongly. -/
theorem tested_every (P : Expr → Prop) (axis : Axis) : (Step.every axis).Tested P :=
  ⟨trivial, nofun⟩

/-- All expressions of a list are of some kind, and this is the number of their operators. -/
def AllCounted (P : Expr → Prop) (es : List Expr) (n : Nat) : Prop :=
  (∀ e ∈ es, P e) ∧ Expr.operatorsIn es = n

/-- All steps of a list are tested, and this is the number of the operators in them. -/
def AllTested (P : Expr → Prop) (ss : List Step) (n : Nat) : Prop :=
  (∀ s ∈ ss, s.Tested P) ∧ Expr.operatorsIn (ss.flatMap Step.predicates) = n

section Parts

variable {expr : Parse Expr} {P : Expr → Prop} {bound : Nat}

theorem AllCounted.nil : AllCounted P [] 0 :=
  ⟨nofun, rfl⟩

theorem AllCounted.cons {e : Expr} {es : List Expr} {m n : Nat} (h : P e ∧ e.operators = m)
    (h' : AllCounted P es n) : AllCounted P (e :: es) (m + n) :=
  ⟨List.forall_mem_cons.mpr ⟨h.1, h'.1⟩, by rw [Expr.operatorsIn_cons, h.2, h'.2]⟩

theorem AllTested.nil : AllTested P [] 0 :=
  ⟨nofun, rfl⟩

/-- One more step brings the operators of its predicates. -/
theorem AllTested.cons {s : Step} {ss : List Step} {m n : Nat}
    (h : s.Tested P ∧ Expr.operatorsIn s.predicates = m) (h' : AllTested P ss n) :
    AllTested P (s :: ss) (m + n) := by
  refine ⟨List.forall_mem_cons.mpr ⟨h.1, h'.1⟩, ?_⟩
  rw [List.flatMap_cons, Expr.operatorsIn_append, h.2, h'.2]

/-- The step that two slashes stand for. -/
theorem AllTested.descendantOrSelf {ss : List Step} {n : Nat} (h : AllTested P ss n) :
    AllTested P (.descendantOrSelf :: ss) n :=
  ⟨List.forall_mem_cons.mpr ⟨tested_every P _, h.1⟩, h.2⟩

/-- The predicates of a step are whole expressions, all read by the parser given. -/
theorem Builds.predicates (h : Builds expr P) :
    Yields bound (run (predicates expr)) (AllCounted P) := by
  induction bound using Nat.strong_induction_on with
  | _ bound ih =>
    intro s hs
    rw [run_predicates]
    split
    next => exact .ok .nil (.refl s)
    next s' hskip =>
      refine .behind (advances_of_skip? hskip) hs fun b hb => ?_
      exact (h b).closed _ _ fun e n he => (ih b hb).map fun es m hes => .cons he hes

theorem yields_instructionTarget (name : String) :
    Yields bound (run (instructionTarget name)) fun _ n => n = 0 := by
  intro s _ target t hrun
  obtain ⟨r, hr, hrt⟩ := map_eq_ok.mp hrun
  obtain ⟨-, rfl⟩ := Prod.mk.inj hrt
  refine ⟨0, rfl, ?_⟩
  unfold instructionTarget at hr
  split at hr
  next literal position rest htokens =>
    split at hr
    · cases hr
      exact (advances_of_cons htokens).2
    · cases hr
      exact .refl s
  next =>
    cases hr
    exact .refl s

theorem checked_nodeTypeTest (name : String) (target : Option String) :
    (nodeTypeTest name target).Checked := by
  unfold nodeTypeTest
  split <;> trivial

/-- A test that is read passes its check: the parser rejects names with a prefix. -/
theorem yields_nodeTest : Yields bound (run nodeTest) fun test n => test.Checked ∧ n = 0 := by
  intro s hs
  rw [run_nodeTest]
  split
  next => exact gives_error _
  next name position rest htokens =>
    split
    next => exact .ok ⟨trivial, rfl⟩ (advances_of_cons htokens).2
    next hstar =>
      split
      next => exact gives_fail _
      next hcolon =>
        refine .ok ⟨⟨?_, ?_⟩, rfl⟩ (advances_of_cons htokens).2
        · simpa using hstar
        · simpa using hcolon
  next name position rest htokens =>
    refine .behind (advances_of_cons htokens) hs fun b _ => ?_
    refine (yields_expect _ _).andThen fun _ => ?_
    refine (yields_instructionTarget name).andThen fun target => ?_
    exact (yields_expect _ _).andThen fun _ => .pure ⟨checked_nodeTypeTest name target, rfl⟩
  next => exact gives_fail _

theorem yields_stepAxis : Yields bound (run stepAxis) fun _ n => n = 0 := by
  intro s hs
  rw [run_stepAxis]
  split
  next position rest htokens => exact .ok rfl (advances_of_cons htokens).2
  next name position rest htokens =>
    split
    next => exact gives_fail _
    next axis _ =>
      exact .behind (advances_of_cons htokens) hs fun b _ =>
        (yields_expect _ _).andThen fun _ => .pure rfl
  next => exact .ok rfl (.refl s)

/-- What is read as a step has been tested, and the operators in it are counted. -/
theorem Builds.step (h : Builds expr P) :
    Yields bound (run (step expr)) fun s n => s.Tested P ∧ Expr.operatorsIn s.predicates = n := by
  intro s hs
  rw [run_step]
  split
  next s' _ hskip => exact .ok ⟨tested_every P _, rfl⟩ (advances_of_skip? hskip).2
  next s' _ hskip => exact .ok ⟨tested_every P _, rfl⟩ (advances_of_skip? hskip).2
  next =>
    refine yields_stepAxis.andThen (fun axis => ?_) s hs
    refine yields_nodeTest.bind fun test _ htest => ?_
    obtain ⟨htest, rfl⟩ := htest
    simp only [Nat.zero_add]
    exact h.predicates.map fun es n hes => ⟨⟨htest, hes.1⟩, hes.2⟩

/-- At least one step is read where steps are wanted. -/
theorem Builds.steps (h : Builds expr P) :
    Yields bound (run (steps expr)) fun ss n => ss ≠ [] ∧ AllTested P ss n := by
  induction bound using Nat.strong_induction_on with
  | _ bound ih =>
    rw [run_steps]
    refine h.step.bind fun first n hfirst s hs => ?_
    rw [stepsAfter]
    split
    next s' _ hskip =>
      exact .behind (advances_of_skip? hskip) hs fun b hb => (ih b hb).map fun ss m hss =>
        ⟨List.cons_ne_nil _ _, .cons hfirst hss.2⟩
    next s' _ hskip =>
      exact .behind (advances_of_skip? hskip) hs fun b hb => (ih b hb).map fun ss m hss =>
        ⟨List.cons_ne_nil _ _, .cons hfirst hss.2.descendantOrSelf⟩
    next => exact .ok ⟨List.cons_ne_nil _ _, .cons hfirst .nil⟩ (.refl s)

theorem Builds.stepsBehind (h : Builds expr P) :
    Yields bound (run (stepsBehind expr)) (AllTested P) := by
  intro s hs
  rw [run_stepsBehind]
  split
  next s' _ hskip =>
    exact .behind (advances_of_skip? hskip) hs fun b _ => h.steps.imp fun ss n hss => hss.2
  next s' _ hskip =>
    exact .behind (advances_of_skip? hskip) hs fun b _ => h.steps.map fun ss n hss =>
      hss.2.descendantOrSelf
  next => exact .ok .nil (.refl s)

/-- The arguments of a call are whole expressions. -/
theorem Builds.argumentList (h : Builds expr P) :
    Yields bound (run (argumentList expr)) (AllCounted P) := by
  induction bound using Nat.strong_induction_on with
  | _ bound ih =>
    rw [run_argumentList]
    refine (h bound).bind fun first n hfirst s hs => ?_
    rw [argumentsAfter]
    split
    next s' hskip =>
      exact .behind (advances_of_skip? hskip) hs fun b hb => (ih b hb).map fun es m hes =>
        .cons hfirst hes
    next => exact .ok (.cons hfirst .nil) (.refl s)

theorem Builds.arguments (h : Builds expr P) (name : String) :
    Yields bound (run (arguments expr name)) (AllCounted P) := by
  rw [run_arguments]
  refine (yields_expect _ _).andThen fun _ s hs => ?_
  rw [argumentsInside]
  split
  next s' hskip => exact .ok .nil (advances_of_skip? hskip).2
  next => exact h.argumentList.closed _ _ (fun es n hes => .pure hes) s hs

end Parts

/-! ## Operands -/

/-- A well-formed expression that nests less than so deep where one of level `k` is wanted. -/
def Fits (k bound : Nat) (e : Expr) : Prop :=
  e.WellFormed ∧ fitNesting k e.level e.nesting < bound

section Fitting

variable {k l depth : Nat} {e : Expr}

/-- Where a tighter level is wanted, an expression nests no less deep. -/
theorem fitNesting_mono {level nesting : Nat} (h : k ≤ l) :
    fitNesting k level nesting ≤ fitNesting l level nesting := by
  unfold fitNesting
  split <;> split <;> omega

/-- What fits where a tight level is wanted fits where a looser one is. -/
theorem Fits.looser {bound : Nat} (h : Fits k bound e) (hl : l ≤ k) : Fits l bound e :=
  ⟨h.1, (fitNesting_mono hl).trans_lt h.2⟩

/-- No level is tight enough to do without parentheses or brackets where 13 is wanted. -/
theorem fits_thirteen : Fits 13 (depth + 1) e ↔ e.WellFormed ∧ e.nesting + 2 ≤ depth := by
  have hlevel := e.level_bounds.2
  rw [Fits, fitNesting, if_pos (by omega), Nat.lt_succ_iff]

/-- An expression that is tight enough fits if its children are well formed and it nests less than
so deep. -/
theorem fits_of_le (hk : k ≤ e.level) (hc : e.Checked) (h : ∀ c ∈ e.children, c.WellFormed)
    (hn : e.nesting ≤ depth) : Fits k (depth + 1) e := by
  refine ⟨Expr.wellFormed_iff.mpr ⟨hc, h⟩, ?_⟩
  rw [fitNesting, if_neg (Nat.not_lt.mpr hk)]
  exact Nat.lt_succ_of_le hn

/-- An expression of a single token. -/
theorem fits_leaf (hk : k ≤ e.level) (hc : e.Checked) (h : e.children = []) (hn : e.nesting = 0) :
    Fits k (depth + 1) e := by
  refine fits_of_le hk hc (fun c hmem => ?_) (hn ▸ Nat.zero_le depth)
  rw [h] at hmem
  exact absurd hmem List.not_mem_nil

/-- Arguments stand in the parentheses of their call, of whatever level they are. -/
theorem fits_call {function : Function} {es : List Expr}
    (ha : function.arity.allows es.length = true) (h : ∀ e ∈ es, Fits 13 (depth + 1) e) :
    Fits 12 (depth + 1) (.call function es) := by
  simp only [fits_thirteen] at h
  refine fits_of_le le_rfl ha (fun c hc => (h c hc).1) ?_
  rw [Expr.nesting, greatest_enclosed_le]
  exact fun e he => (h e he).2

theorem wellFormed_of_tested {ss : List Step} (h : ∀ s ∈ ss, s.Tested (Fits 13 (depth + 1))) :
    ∀ c ∈ ss.flatMap Step.predicates, c.WellFormed := by
  intro c hc
  obtain ⟨s, hs, hc⟩ := List.mem_flatMap.mp hc
  exact ((h s hs).2 c hc).1

theorem nesting_le_of_tested {ss : List Step} (h : ∀ s ∈ ss, s.Tested (Fits 13 (depth + 1))) :
    greatest (ss.map Step.nesting) ≤ depth :=
  greatest_steps_le.mpr fun s hs e he => (fits_thirteen.mp ((h s hs).2 e he)).2

theorem fits_path {absolute : Bool} {ss : List Step} (hne : absolute = false → ss ≠ [])
    (h : ∀ s ∈ ss, s.Tested (Fits 13 (depth + 1))) :
    Fits 10 (depth + 1) (.path absolute ss) := by
  refine fits_of_le le_rfl ⟨hne, fun s hs => (h s hs).1⟩ (wellFormed_of_tested h) ?_
  rw [Expr.nesting]
  exact nesting_le_of_tested h

/-- Predicates and steps make a path of a primary expression, which is less tight. -/
theorem fits_withFilter {es : List Expr} {ss : List Step} (hp : Fits 12 (depth + 1) e)
    (hes : ∀ e ∈ es, Fits 13 (depth + 1) e) (hss : ∀ s ∈ ss, s.Tested (Fits 13 (depth + 1))) :
    Fits 10 (depth + 1) (withFilter e es ss) := by
  by_cases hne : es ≠ [] ∨ ss ≠ []
  · rw [withFilter_of_ne hne]
    simp only [fits_thirteen] at hes
    refine fits_of_le le_rfl ⟨hne, fun s hs => (hss s hs).1⟩ ?_ ?_
    · intro c hc
      rcases List.mem_append.mp hc with hc | hc
      · rcases List.mem_cons.mp hc with rfl | hc
        · exact hp.1
        · exact (hes c hc).1
      · exact wellFormed_of_tested hss c hc
    · rw [Expr.nesting, max_le_iff, max_le_iff, greatest_enclosed_le]
      exact ⟨Nat.le_of_lt_succ hp.2, fun e he => (hes e he).2, nesting_le_of_tested hss⟩
  · simp only [ne_eq, not_or, not_not] at hne
    obtain ⟨rfl, rfl⟩ := hne
    exact hp.looser (by decide)

theorem operators_withFilter {es : List Expr} {ss : List Step} :
    (withFilter e es ss).operators =
      e.operators + (Expr.operatorsIn es + Expr.operatorsIn (ss.flatMap Step.predicates)) := by
  by_cases hne : es ≠ [] ∨ ss ≠ []
  · rw [withFilter_of_ne hne, Expr.operators_of_not rfl]
    simp [Expr.children]
  · simp only [ne_eq, not_or, not_not] at hne
    obtain ⟨rfl, rfl⟩ := hne
    rfl

/-- A minus sign may stand before another one, and nests one deeper. -/
theorem fits_negate (h : Fits 8 depth e) : Fits 8 (depth + 1) (.negate e) := by
  refine fits_of_le le_rfl trivial ?_ ?_
  · rintro c hc
    rw [List.mem_singleton.mp hc]
    exact h.1
  · rw [Expr.nesting]
    exact h.2

/-- An operator between a left operand of its level and a tighter right one. -/
theorem Joins.fits {found : Symbol} {f : Expr → Expr → Expr} {left right : Expr} {bound : Nat}
    (h : Joins k found f) (hl : Fits k bound left) (hr : Fits (k + 1) bound right) :
    Fits k bound (f left right) := by
  refine ⟨Expr.wellFormed_iff.mpr ⟨h.checked left right, ?_⟩, ?_⟩
  · rw [h.children]
    simpa using ⟨hl.1, hr.1⟩
  · rw [h.level, fitNesting, if_neg (lt_irrefl k), h.nesting]
    exact max_lt hl.2 hr.2

end Fitting

section Operands

variable {expr : Parse Expr} {depth : Nat}

/-- Parentheses make a primary expression of any other, so it fits behind any operator. -/
theorem Builds.primary (h : Builds expr (Fits 13 (depth + 1))) :
    Builds (primary expr) (Fits 12 (depth + 1)) := by
  intro bound s hs
  rw [run_primary]
  split
  next => exact gives_error _
  next name position rest htokens =>
    have hfits : Fits 12 (depth + 1) (.variable name position) :=
      fits_leaf le_rfl trivial rfl (by rw [Expr.nesting])
    exact .ok ⟨hfits, Expr.operators_of_not rfl⟩ (advances_of_cons htokens).2
  next text position rest htokens =>
    have hfits : Fits 12 (depth + 1) (.literal text) :=
      fits_leaf le_rfl trivial rfl (by rw [Expr.nesting])
    exact .ok ⟨hfits, Expr.operators_of_not rfl⟩ (advances_of_cons htokens).2
  next value position rest htokens =>
    have hfits : Fits 12 (depth + 1) (.number value) :=
      fits_leaf le_rfl trivial rfl (by rw [Expr.nesting])
    exact .ok ⟨hfits, Expr.operators_of_not rfl⟩ (advances_of_cons htokens).2
  next position rest htokens =>
    exact .behind (advances_of_cons htokens) hs fun b _ => (h b).closed _ _ fun e n he =>
      .pure ⟨he.1.looser (by decide), he.2⟩
  next name position rest htokens =>
    split
    next => exact gives_fail _
    next function _ =>
      refine .behind (advances_of_cons htokens) hs fun b _ => ?_
      refine (h.arguments name).bind fun es n hes => ?_
      unfold callOf
      split
      next ha => exact .pure ⟨fits_call ha hes.1, (Expr.operators_of_not rfl).trans hes.2⟩
      next => exact fun _ _ => gives_error _
  next => exact gives_fail _

theorem Builds.filtered (h : Builds expr (Fits 13 (depth + 1))) :
    Builds (filtered expr) (Fits 10 (depth + 1)) := by
  intro bound
  rw [run_filtered]
  refine (h.primary bound).bind fun e m he => h.predicates.bind fun es n hes =>
    h.stepsBehind.map fun ss o hss => ⟨fits_withFilter he.1 hes.1 hss.1, ?_⟩
  rw [operators_withFilter, he.2, hes.2, hss.2]

theorem yields_pathOf (h : Builds expr (Fits 13 (depth + 1))) (absolute : Bool) (bound : Nat) :
    Yields bound (pathOf expr absolute) fun e n => Fits 10 (depth + 1) e ∧ e.operators = n :=
  h.steps.map fun _ _ hss =>
    ⟨fits_path (fun _ => hss.1) hss.2.1, (Expr.operators_of_not rfl).trans hss.2.2⟩

/-- Paths and filtered expressions are of the same level. -/
theorem Builds.parsePath (h : Builds expr (Fits 13 (depth + 1))) :
    Builds (parsePath expr) (Fits 10 (depth + 1)) := by
  intro bound s hs
  rw [run_parsePath]
  split
  next => exact h.filtered bound s hs
  next =>
    split
    next t _ hskip =>
      split
      next => exact .behind (advances_of_skip? hskip) hs fun b _ => yields_pathOf h true b
      next =>
        refine .ok ⟨fits_path nofun nofun, ?_⟩ (advances_of_skip? hskip).2
        exact Expr.operators_of_not rfl
    next t _ hskip =>
      exact .behind (advances_of_skip? hskip) hs fun b _ => h.steps.map fun ss n hss =>
        ⟨fits_path nofun hss.2.descendantOrSelf.1, (Expr.operators_of_not rfl).trans hss.2.2⟩
    next => exact yields_pathOf h false bound s hs

end Operands

/-! ## Chains and whole expressions -/

section Whole

variable {k bound depth : Nat} {whole operand : Parse Expr}
  {join : Symbol → Option (Expr → Expr → Expr)} {goOn : Expr → Parse Expr}

theorem advances_of_next? {s t : State} {f : Expr → Expr → Expr} (h : next? join s = some (f, t)) :
    ∃ found, join found = some f ∧ t.tokens.length < s.tokens.length ∧ Advances s t 0 := by
  unfold next? at h
  split at h
  next found position rest htokens =>
    obtain ⟨f', hf, he⟩ := Option.map_eq_some_iff.mp h
    cases he
    exact ⟨found, hf, advances_of_cons htokens⟩
  next => cases h

/-- A loop keeps what it has joined so far of its level, so it may join one more operand to it. -/
theorem Chains.yields_goOn (hc : Chains whole operand join goOn)
    (hj : ∀ found f, join found = some f → Joins k found f)
    (h : Builds operand (Fits (k + 1) depth)) {left : Expr} (hl : Fits k depth left) :
    Yields bound (run (goOn left)) fun e n =>
      Fits k depth e ∧ e.operators = left.operators + n := by
  induction bound using Nat.strong_induction_on generalizing left with
  | _ bound ih =>
    intro s hs
    rw [hc.run_goOn]
    split
    next => exact .ok ⟨hl, rfl⟩ (.refl s)
    next f t hnext =>
      obtain ⟨found, hf, hadvances⟩ := advances_of_next? hnext
      refine .behind hadvances hs fun b hb => ?_
      refine yields_count.bind fun _ m hm => (h b).bind fun right n hright => ?_
      refine (ih b hb ((hj found f hf).fits hl hright.1)).imp fun e o he => ⟨he.1, ?_⟩
      rw [he.2, (hj found f hf).operators, hm, hright.2]
      omega

/-- A chain is read from operands of the next tighter level. -/
theorem Builds.chains (h : Builds operand (Fits (k + 1) depth))
    (hc : Chains whole operand join goOn)
    (hj : ∀ found f, join found = some f → Joins k found f) : Builds whole (Fits k depth) := by
  intro bound
  rw [hc.run_whole]
  refine (h bound).bind fun left m hl => ?_
  refine (hc.yields_goOn hj h (hl.1.looser (Nat.le_succ k))).imp fun e n he => ⟨he.1, ?_⟩
  rw [he.2, hl.2]

theorem Builds.unions (h : Builds operand (Fits 10 depth)) :
    Builds (unions operand) (Fits 9 depth) :=
  h.chains (chains_unions operand) fun _ _ => joins_of_joinAt (k := 9) (by decide)

/-- The levels of operators are chains of chains, down from the tightest. -/
theorem Builds.parseLevels (h : Builds operand (Fits 8 depth)) :
    Builds (parseLevels operand) (Fits 2 depth) := by
  have hproduct := h.chains (chains_chain productLevel operand)
    fun _ _ => joins_of_joinAt (k := 7) (by decide)
  have hsum := hproduct.chains (chains_chain sumLevel _)
    fun _ _ => joins_of_joinAt (k := 6) (by decide)
  have horder := hsum.chains (chains_chain orderLevel _)
    fun _ _ => joins_of_joinAt (k := 5) (by decide)
  have hequality := horder.chains (chains_chain equalityLevel _)
    fun _ _ => joins_of_joinAt (k := 4) (by decide)
  have hand := hequality.chains (chains_chain andLevel _)
    fun _ _ => joins_of_joinAt (k := 3) (by decide)
  exact hand.chains (chains_chain orLevel _) fun _ _ => joins_of_joinAt (k := 2) (by decide)

/-- What the parser reads is well formed and nests no deeper than allowed. -/
theorem builds_parse (depth : Nat) :
    Builds (parseOr depth) (Fits 13 (depth + 1)) ∧ Builds (parseUnary depth) (Fits 8 depth) := by
  induction depth with
  | zero =>
    constructor
    · intro bound s _
      rw [run, parseOr]
      exact gives_fail _
    · intro bound s _
      rw [run, parseUnary]
      exact gives_fail _
  | succ depth ih =>
    constructor
    · -- An expression of the loosest level stands there without parentheses of its own.
      rw [parseOr]
      refine ih.2.parseLevels.imp fun e he => fits_thirteen.mpr ⟨he.1, ?_⟩
      have hn := he.2
      rw [fitNesting, if_neg (Nat.not_lt.mpr e.level_bounds.1)] at hn
      omega
    · intro bound s hs
      rw [run_parseUnary]
      split
      next t hskip =>
        exact .behind (advances_of_skip? hskip) hs fun b _ => (ih.2 b).map fun e n he =>
          ⟨fits_negate he.1, (Expr.operators_of_not rfl).trans he.2⟩
      next =>
        have hunions := ih.1.parsePath.unions.imp fun e he => he.looser (l := 8) (by decide)
        exact hunions bound s hs

end Whole

end Parser

/-- An expression that the parser and its limits allow. -/
structure Expr.Allowed (e : Expr) : Prop where
  /-- All its parts are as the parser wants them. -/
  wellFormed : e.WellFormed
  /-- Its tokens nest no deeper than the parser goes. -/
  nesting_le : e.nesting + 2 ≤ maxDepth
  /-- There are not too many operators. -/
  operators_le : e.operators ≤ maxOperators

/-- What parsing reads is well formed, and keeps both limits. -/
theorem Expr.allowed_of_parse {expression : String} {e : Expr}
    (h : Expr.parse expression = .ok e) : e.Allowed := by
  obtain ⟨tokens, -, h⟩ := bind_eq_ok.mp h
  rw [Expr.ofTokens] at h
  split at h
  next => cases h
  next =>
    obtain ⟨r, hr, h⟩ := bind_eq_ok.mp h
    split at h
    next hrest =>
      cases h
      obtain ⟨n, ⟨hfits, hn⟩, hadvances⟩ := (Parser.builds_parse maxDepth).1 _ _ le_rfl r.value
        r.rest (map_eq_ok.mpr ⟨r, hr, rfl⟩)
      rw [Parser.fits_thirteen] at hfits
      have hoperators := hadvances.operators_eq
      have hwithin := hadvances.within (Nat.zero_le _)
      exact ⟨hfits.1, hfits.2, by omega⟩
    next => cases h

/-- Parsing and writing are inverse.  Every expression that is read from a text is allowed, and
every allowed expression is read from its tokens, all of them, wherever they stand. -/
theorem parse_inverts_tokens :
    (∀ (expression : String) (e : Expr), Expr.parse expression = .ok e → e.Allowed) ∧
      ∀ e : Expr, e.Allowed → ∀ (located : List Located) (finish : Nat),
        located.map (·.token) = e.tokens →
          ∃ r, Parser.parseOr maxDepth ⟨located, 0, finish⟩ = .ok r ∧ r.rest.tokens = [] ∧
            r.value.erase = e.erase := by
  refine ⟨fun _ _ => Expr.allowed_of_parse, ?_⟩
  intro e ⟨hw, hn, ho⟩ located finish ht
  obtain ⟨v, hv, hrun⟩ := (Parser.rereads e hw).returns hn located [] 0 finish ht (.nil 2)
    (by omega)
  rw [List.append_nil] at hrun
  obtain ⟨r, hr, hrv⟩ := map_eq_ok.mp hrun
  obtain ⟨rfl, hrest⟩ := Prod.mk.inj hrv
  exact ⟨r, hr, by rw [hrest], hv⟩

/-- A union that is filtered keeps its parentheses among its tokens. -/
theorem parse_inverts_tokens_difference :
    let step := fun n : String => Expr.path false [.mk .child (.name n) []]
    let e := Expr.binary .subtract (step "a")
      (.filter (.union (step "b") (.variable "x" 7)) [step "c"] [])
    let child := fun n : String => [Token.axis "child", .symbol .colonColon, .name n]
    let tokens := child "a" ++ .symbol .minus :: (inParens (child "b" ++
      [.symbol .pipe, .variable "x"]) ++ inBrackets (child "c"))
    Expr.parse "a - (b|$x)[c]" = .ok e ∧ e.Allowed ∧ e.tokens = tokens ∧
      ∃ r, Parser.parseOr maxDepth ⟨tokens.map (⟨·, 0⟩), 0, 0⟩ = .ok r ∧ r.rest.tokens = [] ∧
        r.value.erase = e.erase := by
  intro step e child tokens
  have hparse : Expr.parse "a - (b|$x)[c]" = .ok e := by cbv
  have htokens : e.tokens = tokens := by cbv
  have hallowed := parse_inverts_tokens.1 _ e hparse
  exact ⟨hparse, hallowed, htokens, parse_inverts_tokens.2 e hallowed _ 0 (by rw [htokens]; rfl)⟩

end HtmlQuery
