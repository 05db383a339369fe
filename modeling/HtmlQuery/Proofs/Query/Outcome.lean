import HtmlQuery.Proofs.Query.Exchange
import HtmlQuery.Query.Evaluation

/-!
# Expressions with the same outcome

Two computations have the same outcome if both come to the same value or both fail for the same
reason, wherever that is noticed.  Expressions that have the same outcome at every node can be put
for each other anywhere in an expression (`congruence_evaluatesAlike`): nothing that is evaluated
looks at where a failure was noticed.
-/

namespace HtmlQuery

/-- Two computations come to the same value, or fail for the same reason. -/
def SameOutcome {α : Type} (x x' : Except QueryError α) : Prop :=
  x.mapError QueryError.fault = x'.mapError QueryError.fault

section Rules

variable {α β : Type} {x x' : Except QueryError α} {f f' : α → Except QueryError β}

theorem SameOutcome.refl (x : Except QueryError α) : SameOutcome x x :=
  rfl

/-- Computations in a row have the same outcome if the first ones do and, for every value, the
second ones do. -/
theorem SameOutcome.bind (h : SameOutcome x x') (hf : ∀ a, SameOutcome (f a) (f' a)) :
    SameOutcome (x >>= f) (x' >>= f') := by
  cases x with
  | error e =>
    cases x' with
    | error e' => exact congrArg Except.error (Except.error.inj h)
    | ok => cases h
  | ok a =>
    cases x' with
    | error => cases h
    | ok a' =>
      obtain rfl : a = a' := Except.ok.inj h
      exact hf a

/-- What is made of a value in the same way. -/
theorem SameOutcome.andThen (h : SameOutcome x x') (f : α → Except QueryError β) :
    SameOutcome (x >>= f) (x' >>= f) :=
  h.bind fun a => .refl (f a)

end Rules

/-! ## Lists of nodes -/

section Lists

variable {predicate predicate' : Focus → Except QueryError Value}
  {select select' : Node → Except QueryError (List Node)}

/-- A predicate keeps the same nodes, or fails for the same reason at the same node. -/
theorem sameOutcome_keepFrom (h : ∀ focus, SameOutcome (predicate focus) (predicate' focus))
    (size position : Nat) (nodes : List Node) :
    SameOutcome (keepFrom predicate size position nodes)
      (keepFrom predicate' size position nodes) := by
  induction nodes generalizing position with
  | nil => exact .refl _
  | cons n rest ih => exact (h _).bind fun v => (ih (position + 1)).andThen _

theorem sameOutcome_collect (h : ∀ n, SameOutcome (select n) (select' n)) (nodes : List Node) :
    SameOutcome (collect select nodes) (collect select' nodes) := by
  induction nodes with
  | nil => exact .refl _
  | cons n rest ih => exact (h n).bind fun first => ih.andThen _

theorem sameOutcome_stepFrom (h : ∀ n, SameOutcome (select n) (select' n)) (axis : Axis)
    (nodes : List Node) :
    SameOutcome (stepFrom axis select nodes) (stepFrom axis select' nodes) :=
  (sameOutcome_collect h nodes).andThen _

end Lists

/-! ## Expressions -/

/-- Two expressions have the same outcome wherever they are evaluated. -/
def Expr.EvaluatesAlike (e e' : Expr) : Prop :=
  ∀ top focus, SameOutcome (e.eval top focus) (e'.eval top focus)

section Parts

variable {es es' : List Expr} {ss ss' : List Step}

theorem sameOutcome_evalArguments (h : List.Forall₂ Expr.EvaluatesAlike es es') (top : Node)
    (focus : Focus) :
    SameOutcome (evalArguments top es focus) (evalArguments top es' focus) := by
  induction h with
  | nil => exact .refl _
  | cons he _ ih =>
    rw [evalArguments, evalArguments]
    exact (he top focus).bind fun v => ih.andThen _

theorem sameOutcome_evalPredicates (h : List.Forall₂ Expr.EvaluatesAlike es es') (top : Node)
    (nodes : List Node) :
    SameOutcome (evalPredicates top es nodes) (evalPredicates top es' nodes) := by
  induction h generalizing nodes with
  | nil => exact .refl _
  | cons he _ ih =>
    rw [evalPredicates, evalPredicates]
    exact (sameOutcome_keepFrom (he top) _ _ nodes).bind ih

theorem sameOutcome_evalSteps (h : List.Forall₂ (Step.Alike Expr.EvaluatesAlike) ss ss')
    (top : Node) (nodes : List Node) :
    SameOutcome (evalSteps top ss nodes) (evalSteps top ss' nodes) := by
  induction h generalizing nodes with
  | nil => exact .refl _
  | cons hs _ ih =>
    obtain ⟨axis, test, hes⟩ := hs
    rw [evalSteps, evalSteps, Step.eval, Step.eval]
    exact (sameOutcome_stepFrom (fun n => sameOutcome_evalPredicates hes top _) axis nodes).bind ih

/-- The right operand of `or` and `and` is only evaluated if the left one does not decide. -/
theorem Expr.EvaluatesAlike.binary (op : BinaryOp) {l l' r r' : Expr} (hl : l.EvaluatesAlike l')
    (hr : r.EvaluatesAlike r') : (Expr.binary op l r).EvaluatesAlike (.binary op l' r') := by
  intro top focus
  cases op with
  | or =>
    rw [Expr.eval, Expr.eval]
    refine (hl top focus).bind fun v => ?_
    split
    · exact .refl _
    · exact (hr top focus).andThen _
  | and =>
    rw [Expr.eval, Expr.eval]
    refine (hl top focus).bind fun v => ?_
    split
    · exact (hr top focus).andThen _
    · exact .refl _
  | _ =>
    simp only [Expr.eval]
    exact (hl top focus).bind fun v => (hr top focus).andThen _

/-- An expression has the same outcome as another one if its parts have the same as theirs. -/
theorem congruence_evaluatesAlike : Expr.Congruence Expr.EvaluatesAlike where
  number _ _ _ := .refl _
  literal _ _ _ := .refl _
  anyVariable _ _ _ _ _ := by
    rw [Expr.eval, Expr.eval]
    rfl
  binary op _ _ _ _ hl hr := hl.binary op hr
  negate he top focus := by
    rw [Expr.eval, Expr.eval]
    exact (he top focus).andThen _
  call function _ _ hes top focus := by
    rw [Expr.eval, Expr.eval]
    exact (sameOutcome_evalArguments hes top focus).andThen _
  union hl hr top focus := by
    rw [Expr.eval, Expr.eval]
    exact (hl top focus).bind fun v => .bind (.refl _) fun ls => (hr top focus).andThen _
  path absolute _ _ hss top focus := by
    rw [Expr.eval, Expr.eval]
    exact (sameOutcome_evalSteps hss top _).andThen _
  filter he hes hss top focus := by
    rw [Expr.eval, Expr.eval]
    refine (he top focus).bind fun v => .bind (.refl _) fun nodes => ?_
    refine (sameOutcome_evalPredicates hes top nodes).bind fun kept => ?_
    exact (sameOutcome_evalSteps hss top kept).andThen _

end Parts

end HtmlQuery
