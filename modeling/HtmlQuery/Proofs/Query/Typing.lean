import HtmlQuery.Proofs.Query.WellFormed

/-!
# Types of expressions

Every expression but a variable has a type that can be read off from it, and where evaluation gives
a value, the value is of that type (`Expr.type_of_eval`).

What can go wrong is said part by part.  Evaluation only fails in a way that one of the parts of the
expression allows (`FailsOnly`): at a variable, or where a value that is no node-set stands in a
place for nodes.  A missing argument is not among them, because the parser has counted the
arguments.  The induction is on the parts, one lemma for each of the loops of evaluation, and it
serves twice: once with these two kinds of failure allowed, and once, if all places for nodes hold
expressions of that type and there is no variable, with none.
-/

namespace HtmlQuery

/-! ## Types -/

/-- The type of what an operator gives. -/
def BinaryOp.type : BinaryOp → ValueType
  | .or | .and | .equal | .notEqual | .less | .lessEqual | .greater | .greaterEqual => .boolean
  | .add | .subtract | .multiply | .divide | .modulo => .number

/-- The type of what a function gives. -/
def Function.type : Function → ValueType
  | .last | .position | .count | .stringLength | .number | .sum | .floor | .ceiling | .round =>
    .number
  | .name | .localName | .string | .concat | .substringBefore | .substringAfter | .substring
  | .normalizeSpace | .translate => .string
  | .startsWith | .endsWith | .contains | .boolean | .not | .true | .false => .boolean

/-- The type of an expression, if it is no variable. -/
def Expr.type? : Expr → Option ValueType
  | number _ | negate _ => some .number
  | literal _ => some .string
  | .variable _ _ => none
  | binary op _ _ => some op.type
  | call function _ => some function.type
  | union _ _ | path _ _ | filter _ _ _ => some .nodeSet

theorem Function.type_of_apply {function : Function} {focus : Focus} {args : List Value} {v : Value}
    (h : function.apply focus args = .ok v) : v.type = function.type := by
  cases function
  all_goals
    simp only [apply, bind_eq_ok, pure_eq_ok, Except.ok.injEq] at h
    first
      | (subst h; rfl)
      | (obtain ⟨_, -, rfl⟩ := h; rfl)

theorem Expr.type_of_eval_binary {op : BinaryOp} {left right : Expr} {top : Node} {focus : Focus}
    {v : Value} (h : (binary op left right).eval top focus = .ok v) : v.type = op.type := by
  match op with
  | .or | .and =>
    simp only [eval, bind_eq_ok] at h
    obtain ⟨l, -, h⟩ := h
    split at h
    all_goals
      simp only [bind_eq_ok, pure_eq_ok] at h
      first
        | (subst h; rfl)
        | (obtain ⟨_, -, rfl⟩ := h; rfl)
  | .equal | .notEqual | .less | .lessEqual | .greater | .greaterEqual | .add | .subtract
  | .multiply | .divide | .modulo =>
    simp only [eval, bind_eq_ok] at h
    obtain ⟨l, -, r, -, h⟩ := h
    cases h
    rfl

/-- A value that evaluation gives is of the type of the expression. -/
theorem Expr.type_of_eval {e : Expr} {top : Node} {focus : Focus} {v : Value}
    (h : e.eval top focus = .ok v) : e.type? = some v.type := by
  cases e with
  | number value =>
    cases h
    rfl
  | literal text =>
    rw [eval] at h
    cases h
    rfl
  | «variable» name position =>
    rw [eval] at h
    cases h
  | binary op left right => exact congrArg some (type_of_eval_binary h).symm
  | negate operand =>
    simp only [eval, bind_eq_ok, pure_eq_ok] at h
    obtain ⟨_, -, rfl⟩ := h
    rfl
  | call function args =>
    simp only [eval, bind_eq_ok] at h
    obtain ⟨_, -, h⟩ := h
    exact congrArg some (Function.type_of_apply h).symm
  | union left right =>
    obtain ⟨_, _, -, -, rfl⟩ := eval_union.mp h
    rfl
  | path absolute steps =>
    simp only [eval, bind_eq_ok, pure_eq_ok] at h
    obtain ⟨_, -, rfl⟩ := h
    rfl
  | filter primary predicates steps =>
    obtain ⟨_, _, _, -, -, -, rfl⟩ := eval_filter.mp h
    rfl

/-! ## What can go wrong -/

/-- An outcome is a value or one of the allowed errors. -/
def FailsOnly {α : Type} (allowed : QueryError → Prop) (outcome : Except QueryError α) : Prop :=
  ∀ e, outcome = .error e → allowed e

/-- The places of an expression where a node-set is wanted. -/
def Expr.nodePlaces : Expr → List Expr
  | union left right => [left, right]
  | filter primary _ _ => [primary]
  | call .count arguments | call .sum arguments | call .name arguments
  | call .localName arguments => arguments
  | _ => []

/-- Whatever can go wrong at an expression itself, its parts left aside, is allowed. -/
structure Expr.Confined (allowed : QueryError → Prop) (e : Expr) : Prop where
  checked : e.Checked
  undefined : ∀ name position, e = .variable name position →
    allowed ⟨.undefinedVariable name, position⟩
  places : ∀ p ∈ e.nodePlaces, p.type? = some .nodeSet ∨
    ∀ usage type, allowed ⟨.needsNodeSet usage type, 0⟩

section Failures

variable {α β : Type} {allowed : QueryError → Prop} {top : Node}

theorem failsOnly_ok (a : α) : FailsOnly allowed (.ok a) :=
  nofun

theorem FailsOnly.bind {x : Except QueryError α} {f : α → Except QueryError β}
    (h : FailsOnly allowed x) (h' : ∀ a, x = .ok a → FailsOnly allowed (f a)) :
    FailsOnly allowed (x >>= f) := by
  cases x with
  | error e =>
    rintro _ ⟨⟩
    exact h e rfl
  | ok a => exact h' a rfl

theorem failsOnly_keepFrom {predicate : Focus → Except QueryError Value} {size position : Nat}
    {nodes : List Node} (h : ∀ focus, FailsOnly allowed (predicate focus)) :
    FailsOnly allowed (keepFrom predicate size position nodes) := by
  induction nodes generalizing position with
  | nil => exact failsOnly_ok []
  | cons n rest ih =>
    rw [keepFrom]
    exact (h _).bind fun v _ => ih.bind fun kept _ => failsOnly_ok _

theorem failsOnly_evalPredicates {predicates : List Expr} {nodes : List Node}
    (h : ∀ e ∈ predicates, ∀ focus, FailsOnly allowed (e.eval top focus)) :
    FailsOnly allowed (evalPredicates top predicates nodes) := by
  induction predicates generalizing nodes with
  | nil =>
    rw [evalPredicates]
    exact failsOnly_ok nodes
  | cons e es ih =>
    obtain ⟨he, hes⟩ := List.forall_mem_cons.mp h
    rw [evalPredicates]
    exact (failsOnly_keepFrom he).bind fun kept _ => ih hes

theorem failsOnly_collect {select : Node → Except QueryError (List Node)} {nodes : List Node}
    (h : ∀ n, FailsOnly allowed (select n)) : FailsOnly allowed (collect select nodes) := by
  induction nodes with
  | nil => exact failsOnly_ok []
  | cons n rest ih => exact (h n).bind fun first _ => ih.bind fun more _ => failsOnly_ok _

theorem failsOnly_evalSteps {steps : List Step} {nodes : List Node}
    (h : ∀ s ∈ steps, ∀ e ∈ s.predicates, ∀ focus, FailsOnly allowed (e.eval top focus)) :
    FailsOnly allowed (evalSteps top steps nodes) := by
  induction steps generalizing nodes with
  | nil =>
    rw [evalSteps]
    exact failsOnly_ok nodes
  | cons s ss ih =>
    obtain ⟨hs, hss⟩ := List.forall_mem_cons.mp h
    obtain ⟨axis, test, predicates⟩ := s
    rw [evalSteps, Step.eval]
    refine FailsOnly.bind ?_ fun selected _ => ih hss
    refine (failsOnly_collect fun n => failsOnly_evalPredicates hs).bind fun selected _ => ?_
    split <;> exact failsOnly_ok _

/-- The values of arguments are those of the arguments, one by one. -/
theorem forall₂_of_evalArguments {es : List Expr} {focus : Focus} {vs : List Value}
    (h : evalArguments top es focus = .ok vs) :
    List.Forall₂ (fun e v => e.eval top focus = .ok v) es vs := by
  induction es generalizing vs with
  | nil =>
    rw [evalArguments] at h
    cases h
    exact .nil
  | cons e es ih =>
    simp only [evalArguments, bind_eq_ok, pure_eq_ok] at h
    obtain ⟨v, hv, more, hmore, rfl⟩ := h
    exact .cons hv (ih hmore)

theorem evalArguments_of_forall₂ {es : List Expr} {focus : Focus} {vs : List Value}
    (h : List.Forall₂ (fun e v => e.eval top focus = .ok v) es vs) :
    evalArguments top es focus = .ok vs := by
  induction h with
  | nil => rw [evalArguments]
  | cons he _ ih =>
    rw [evalArguments, he, ok_bind, ih]
    rfl

/-- A function is applied to the values of its arguments. -/
theorem Expr.eval_call {function : Function} {es : List Expr} {focus : Focus} {vs : List Value}
    (h : List.Forall₂ (fun e v => e.eval top focus = .ok v) es vs) :
    (Expr.call function es).eval top focus = function.apply focus vs := by
  rw [Expr.eval, evalArguments_of_forall₂ h, ok_bind]

theorem failsOnly_evalArguments {es : List Expr} {focus : Focus}
    (h : ∀ e ∈ es, FailsOnly allowed (e.eval top focus)) :
    FailsOnly allowed (evalArguments top es focus) := by
  induction es with
  | nil =>
    rw [evalArguments]
    exact failsOnly_ok []
  | cons e es ih =>
    obtain ⟨he, hes⟩ := List.forall_mem_cons.mp h
    rw [evalArguments]
    exact he.bind fun v _ => (ih hes).bind fun more _ => failsOnly_ok _

/-- The nodes of the value of an expression. -/
theorem failsOnly_nodes {e : Expr} {focus : Focus} {v : Value} (usage : NodeSetUse)
    (h : e.type? = some .nodeSet ∨ ∀ usage type, allowed ⟨.needsNodeSet usage type, 0⟩)
    (hv : e.eval top focus = .ok v) : FailsOnly allowed (v.nodes usage) := by
  rintro error herror
  rcases h with h | h
  · rw [Expr.type_of_eval hv] at h
    cases v with
    | nodeSet nodes => cases herror
    | boolean | number | string => cases h
  · cases v with
    | nodeSet nodes => cases herror
    | boolean | number | string =>
      cases herror
      exact h usage _

/-- A function with as many arguments as it takes misses none of them. -/
theorem failsOnly_apply {function : Function} {focus focus' : Focus} {es : List Expr}
    {vs : List Value} (ha : function.arity.allows es.length = true)
    (hp : ∀ p ∈ (Expr.call function es).nodePlaces, p.type? = some .nodeSet ∨
      ∀ usage type, allowed ⟨.needsNodeSet usage type, 0⟩)
    (hvs : List.Forall₂ (fun e v => e.eval top focus = .ok v) es vs) :
    FailsOnly allowed (function.apply focus' vs) := by
  cases hvs with
  | nil =>
    -- Only these two would ask for an argument, and they take one.
    cases function with
    | boolean | not => cases ha
    | _ => exact failsOnly_ok _
  | cons hv hvs =>
    cases function with
    | count | sum | name | localName =>
      exact (failsOnly_nodes _ (hp _ List.mem_cons_self) hv).bind fun _ _ => failsOnly_ok _
    | _ => exact failsOnly_ok _

theorem failsOnly_eval_binary {op : BinaryOp} {left right : Expr} {focus : Focus}
    (hl : FailsOnly allowed (left.eval top focus)) (hr : FailsOnly allowed (right.eval top focus)) :
    FailsOnly allowed ((Expr.binary op left right).eval top focus) := by
  match op with
  | .or | .and =>
    rw [Expr.eval]
    refine hl.bind fun l _ => ?_
    split
    all_goals first | exact failsOnly_ok _ | exact hr.bind fun r _ => failsOnly_ok _
  | .equal | .notEqual | .less | .lessEqual | .greater | .greaterEqual | .add | .subtract
  | .multiply | .divide | .modulo =>
    simp only [Expr.eval]
    exact hl.bind fun l _ => hr.bind fun r _ => failsOnly_ok _

/-- Evaluation fails only in a way that some part of the expression allows. -/
theorem failsOnly_eval {e : Expr} (h : ∀ p ∈ e.parts, p.Confined allowed) (focus : Focus) :
    FailsOnly allowed (e.eval top focus) := by
  induction e using Expr.induction_on_children generalizing focus with
  | h e ih =>
    obtain ⟨hchecked, hundefined, hplaces⟩ := h e e.mem_parts_self
    replace ih : ∀ c ∈ e.children, ∀ focus, FailsOnly allowed (c.eval top focus) :=
      fun c hc focus => ih c hc (fun p hp => h p (Expr.mem_parts_of_child hc hp)) focus
    cases e with
    | number value =>
      rw [Expr.eval]
      exact failsOnly_ok _
    | literal text =>
      rw [Expr.eval]
      exact failsOnly_ok _
    | «variable» name position =>
      rw [Expr.eval]
      rintro _ ⟨⟩
      exact hundefined name position rfl
    | binary op left right =>
      exact failsOnly_eval_binary (ih left List.mem_cons_self focus)
        (ih right (List.mem_cons_of_mem _ List.mem_cons_self) focus)
    | negate operand =>
      rw [Expr.eval]
      exact (ih operand List.mem_cons_self focus).bind fun v _ => failsOnly_ok _
    | call function es =>
      rw [Expr.eval]
      exact (failsOnly_evalArguments fun e he => ih e he focus).bind fun vs hvs =>
        failsOnly_apply hchecked hplaces (forall₂_of_evalArguments hvs)
    | union left right =>
      obtain ⟨hl, hr⟩ := List.forall_mem_cons.mp hplaces
      rw [Expr.eval]
      refine (ih left List.mem_cons_self focus).bind fun l hlv => ?_
      refine (failsOnly_nodes _ hl hlv).bind fun ls _ => ?_
      refine (ih right (List.mem_cons_of_mem _ List.mem_cons_self) focus).bind fun r hrv => ?_
      exact (failsOnly_nodes _ (hr right List.mem_cons_self) hrv).bind fun rs _ => failsOnly_ok _
    | path absolute steps =>
      rw [Expr.eval]
      refine FailsOnly.bind (failsOnly_evalSteps fun s hs e he => ih e ?_) fun _ _ => failsOnly_ok _
      exact List.mem_flatMap_of_mem hs he
    | filter primary predicates steps =>
      rw [Expr.eval]
      refine (ih primary List.mem_cons_self focus).bind fun v hv => ?_
      refine (failsOnly_nodes _ (hplaces primary List.mem_cons_self) hv).bind fun nodes _ => ?_
      refine (failsOnly_evalPredicates fun e he => ih e ?_).bind fun kept _ => ?_
      · exact List.mem_append_left _ (List.mem_cons_of_mem _ he)
      refine (failsOnly_evalSteps fun s hs e he => ih e ?_).bind fun _ _ => failsOnly_ok _
      exact List.mem_append_right _ (List.mem_flatMap_of_mem hs he)

end Failures

/-! ## Arguments that are not there -/

theorem Arity.least_le {a : Arity} {count : Nat} (h : a.allows count = true) : a.least ≤ count := by
  rw [allows, Bool.and_eq_true, decide_eq_true_eq] at h
  exact h.1

/-- A function that has to have arguments does not look at the focus instead of one that is missing:
with as many as it has to have, it gives the same at every focus. -/
theorem Function.apply_eq_of_required {function : Function} {values : List Value}
    (hleast : 0 < function.arity.least) (h : function.arity.least ≤ values.length)
    (focus focus' : Focus) : function.apply focus values = function.apply focus' values := by
  cases function with
  | last | position | true | false | name | localName | string | stringLength | normalizeSpace
  | number => exact absurd hleast (lt_irrefl 0)
  | concat => rfl
  | count | boolean | not | sum | floor | ceiling | round =>
    match values, h with
    | _ :: _, _ => rfl
  | startsWith | endsWith | contains | substringBefore | substringAfter | substring =>
    match values, h with
    | _ :: _ :: _, _ => rfl
  | translate =>
    match values, h with
    | _ :: _ :: _ :: _, _ => rfl

/-- What is read from a text and evaluated gives a value of the type of the expression, or fails
because of a variable or of a value in a place for nodes.  Its functions do not look at the focus
instead of an argument that is missing.  And without variables, and with expressions for nodes in
all places for nodes, it does not fail. -/
theorem evaluation_typed (expression : String) (e : Expr) (h : Expr.parse expression = .ok e) :
    (∀ (top : Node) (focus : Focus) (v : Value), e.eval top focus = .ok v → e.type? = some v.type) ∧
    (∀ (top : Node) (focus : Focus) (error : QueryError), e.eval top focus = .error error →
      error.kind = .undefinedVariable ∨ error.kind = .invalidType) ∧
    (∀ (function : Function) (arguments : List Expr), .call function arguments ∈ e.parts →
      0 < function.arity.least → ∀ values : List Value, values.length = arguments.length →
        ∀ focus focus', function.apply focus values = function.apply focus' values) ∧
    ((∀ p ∈ e.parts, (∀ name position, p ≠ .variable name position) ∧
        ∀ place ∈ p.nodePlaces, place.type? = some .nodeSet) →
      ∀ (top : Node) (focus : Focus), ∃ v, e.eval top focus = .ok v) := by
  have hchecked := (Expr.allowed_of_parse h).wellFormed
  refine ⟨fun top focus v hv => Expr.type_of_eval hv, ?_, ?_, ?_⟩
  · intro top focus
    refine failsOnly_eval (fun p hp => ⟨hchecked p hp, ?_, ?_⟩) focus
    · exact fun _ _ _ => .inl rfl
    · exact fun _ _ => .inr fun _ _ => .inr rfl
  · intro function arguments hmem hleast values hlength
    have ha : function.arity.allows arguments.length = true := hchecked _ hmem
    exact Function.apply_eq_of_required hleast (hlength ▸ Arity.least_le ha)
  · intro hparts top focus
    have hnone : FailsOnly (fun _ => False) (e.eval top focus) := by
      refine failsOnly_eval (fun p hp => ⟨hchecked p hp, ?_, ?_⟩) focus
      · exact (hparts p hp).1
      · exact fun place hplace => .inl ((hparts p hp).2 place hplace)
    cases hv : e.eval top focus with
    | error error => exact (hnone error hv).elim
    | ok v => exact ⟨v, rfl⟩

theorem evaluation_typed_union :
    let step := fun n : String => Expr.path false [.mk .child (.name n) []]
    let e := Expr.filter (.union (step "a") (step "b")) [step "c"] []
    Expr.parse "(a|b)[c]" = .ok e ∧
      ∀ (top : Node) (focus : Focus), ∃ v, e.eval top focus = .ok v ∧ v.type = .nodeSet := by
  intro step e
  have hparse : Expr.parse "(a|b)[c]" = .ok e := by cbv
  obtain ⟨htype, -, -, hok⟩ := evaluation_typed _ e hparse
  refine ⟨hparse, fun top focus => ?_⟩
  obtain ⟨v, hv⟩ := hok (by simp [e, step, Expr.parts_eq, Expr.children, Step.predicates,
    Expr.nodePlaces, Expr.type?]) top focus
  exact ⟨v, hv, (Option.some.inj (htype top focus v hv)).symm⟩

end HtmlQuery
