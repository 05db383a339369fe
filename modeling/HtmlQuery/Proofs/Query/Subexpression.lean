import HtmlQuery.Proofs.Query.Evaluation

/-!
# The parts of an expression

Expressions stand in operands, in arguments, in predicates and behind each other, and a statement
about all of them should not have to say where.  `Expr.children` lists what an expression is made of
directly, `Expr.parts` what it is made of altogether, and `Expr.induction_on_children` is the one
induction over both.

An expression is well formed if each of its parts is: a call with as many arguments as its function
takes, a path from the current node that goes somewhere, a filter that filters, and tests for names
that are names.
-/

namespace HtmlQuery

/-- The test of a step. -/
def Step.test : Step → NodeTest
  | .mk _ test _ => test

/-- The predicates of a step. -/
def Step.predicates : Step → List Expr
  | .mk _ _ predicates => predicates

namespace Expr

/-- The expressions that an expression is made of directly. -/
def children : Expr → List Expr
  | number _ | literal _ | .variable .. => []
  | binary _ left right | union left right => [left, right]
  | negate operand => [operand]
  | call _ arguments => arguments
  | path _ steps => steps.flatMap Step.predicates
  | filter primary predicates steps => primary :: predicates ++ steps.flatMap Step.predicates

theorem sizeOf_predicates_lt {c : Expr} {steps : List Step}
    (h : c ∈ steps.flatMap Step.predicates) : sizeOf c < sizeOf steps := by
  obtain ⟨⟨axis, test, predicates⟩, hs, hc⟩ := List.mem_flatMap.mp h
  have hstep := List.sizeOf_lt_of_mem hs
  have hpredicate := List.sizeOf_lt_of_mem (show c ∈ predicates from hc)
  simp only [Step.mk.sizeOf_spec] at hstep
  omega

/-- An expression is larger than what it is made of, so recursion over children ends. -/
theorem sizeOf_lt_of_mem_children {c e : Expr} (h : c ∈ e.children) : sizeOf c < sizeOf e := by
  cases e with
  | number | literal | «variable» => cases h
  | binary op left right | union left right =>
    simp only [children, List.mem_cons, List.not_mem_nil, or_false] at h
    all_goals rcases h with rfl | rfl
    all_goals simp only [binary.sizeOf_spec, union.sizeOf_spec]
    all_goals omega
  | negate operand =>
    cases List.mem_singleton.mp h
    simp
  | call function arguments =>
    have := List.sizeOf_lt_of_mem (show c ∈ arguments from h)
    simp only [call.sizeOf_spec]
    omega
  | path absolute steps =>
    have := sizeOf_predicates_lt h
    simp only [path.sizeOf_spec]
    omega
  | filter primary predicates steps =>
    simp only [children, List.cons_append, List.mem_cons, List.mem_append] at h
    simp only [filter.sizeOf_spec]
    rcases h with rfl | h | h
    · omega
    · have := List.sizeOf_lt_of_mem h
      omega
    · have := sizeOf_predicates_lt h
      omega

/-- What passes from the children of each expression to the expression holds of all. -/
theorem induction_on_children {motive : Expr → Prop}
    (h : ∀ e, (∀ c ∈ e.children, motive c) → motive e) (e : Expr) : motive e :=
  h e fun c _ => induction_on_children h c
termination_by sizeOf e
decreasing_by exact sizeOf_lt_of_mem_children ‹_›

/-- The expression and the parts of its children. -/
def parts (e : Expr) : List Expr :=
  e :: e.children.attach.flatMap fun c => parts c.val
termination_by sizeOf e
decreasing_by exact sizeOf_lt_of_mem_children c.property

theorem parts_eq (e : Expr) : e.parts = e :: e.children.flatMap parts := by
  rw [parts]
  simp only [List.flatMap_subtype, List.unattach_attach]

/-- A part is the expression itself or a part of a child. -/
theorem mem_parts {p e : Expr} : p ∈ e.parts ↔ p = e ∨ ∃ c ∈ e.children, p ∈ c.parts := by
  rw [parts_eq, List.mem_cons, List.mem_flatMap]

theorem mem_parts_self (e : Expr) : e ∈ e.parts :=
  mem_parts.mpr (.inl rfl)

theorem mem_parts_of_child {p c e : Expr} (hc : c ∈ e.children) (hp : p ∈ c.parts) :
    p ∈ e.parts :=
  mem_parts.mpr (.inr ⟨c, hc, hp⟩)

/-- What holds of all parts holds of the expression and of all parts of its children. -/
theorem forall_parts {P : Expr → Prop} {e : Expr} :
    (∀ p ∈ e.parts, P p) ↔ P e ∧ ∀ c ∈ e.children, ∀ p ∈ c.parts, P p := by
  constructor
  · intro h
    exact ⟨h e e.mem_parts_self, fun c hc p hp => h p (mem_parts_of_child hc hp)⟩
  · rintro ⟨h, hchildren⟩ p hp
    rcases mem_parts.mp hp with rfl | ⟨c, hc, hp⟩
    · exact h
    · exact hchildren c hc p hp

/-! ## Operators -/

/-- Whether the expression is an operator between two operands. -/
def isOperator : Expr → Bool
  | binary .. | union .. => true
  | _ => false

/-- The number of operators in an expression. -/
def operators (e : Expr) : Nat :=
  e.parts.countP isOperator

/-- The number of operators in all expressions of a list. -/
def operatorsIn (es : List Expr) : Nat :=
  (es.map operators).sum

@[simp] theorem operatorsIn_nil : operatorsIn [] = 0 := rfl

@[simp] theorem operatorsIn_cons (e : Expr) (es : List Expr) :
    operatorsIn (e :: es) = e.operators + operatorsIn es := rfl

@[simp] theorem operatorsIn_append (es es' : List Expr) :
    operatorsIn (es ++ es') = operatorsIn es + operatorsIn es' := by
  simp [operatorsIn]

/-- The operators of an expression are its own and those of its children. -/
theorem operators_eq (e : Expr) :
    e.operators = (if e.isOperator then 1 else 0) + operatorsIn e.children := by
  rw [operators, parts_eq, List.countP_cons, List.countP_flatMap, Nat.add_comm]
  rfl

/-- What is no operator itself has those of its children only. -/
theorem operators_of_not {e : Expr} (h : e.isOperator = false) :
    e.operators = operatorsIn e.children := by
  rw [operators_eq, h, if_neg Bool.false_ne_true, Nat.zero_add]

/-! ## Well-formed expressions -/

end Expr

/-- A test for a name is for one without a prefix, and not for `*`, which is a test of its own. -/
def NodeTest.Checked : NodeTest → Prop
  | .name n => n ≠ "*" ∧ ':' ∉ n.toList
  | _ => True

/-- A step with a test that the parser lets pass, and with predicates of some kind. -/
def Step.Tested (P : Expr → Prop) (s : Step) : Prop :=
  s.test.Checked ∧ ∀ e ∈ s.predicates, P e

namespace Expr

/-- What the parser checks of an expression, its parts left aside.  A function has as many
arguments as it takes, a path from the current node has a step, and a filter has a predicate or a
step. -/
def Checked : Expr → Prop
  | call function arguments => function.arity.allows arguments.length = true
  | path absolute steps => (absolute = false → steps ≠ []) ∧ ∀ s ∈ steps, s.test.Checked
  | filter _ predicates steps => (predicates ≠ [] ∨ steps ≠ []) ∧ ∀ s ∈ steps, s.test.Checked
  | _ => True

/-- All parts of an expression are as the parser wants them. -/
def WellFormed (e : Expr) : Prop :=
  ∀ p ∈ e.parts, p.Checked

/-- An expression is well formed if it is checked itself and its children are well formed. -/
theorem wellFormed_iff {e : Expr} :
    e.WellFormed ↔ e.Checked ∧ ∀ c ∈ e.children, c.WellFormed :=
  forall_parts

end Expr

end HtmlQuery
