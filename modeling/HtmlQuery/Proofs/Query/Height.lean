import HtmlQuery.Proofs.Query.WellFormed

/-!
# How high an expression is

The parser never measures the tree that it builds.  It limits how deep tokens nest and how many
operators they hold, and the height of the tree follows.  `Expr.WayDown` is a way from an expression
to one of its children, from there to one of its children, and so on.

An operator on a way is counted as such.  Every other expression on it takes what stands below it
from a deeper nesting, with one exception: a filter of a primary operand nests no deeper than that
operand.  Primary operands are therefore allowed one expression less than others (`Expr.spare`), and
what a way may still meet, `Expr.room`, shrinks at every step (`Expr.room_lt`).
-/

namespace HtmlQuery

namespace Expr

/-- A way down an expression, which ends anywhere. -/
inductive WayDown : Expr → List Expr → Prop where
  /-- The way that ends where it begins. -/
  | stop (e : Expr) : WayDown e [e]
  /-- A way that goes on from one of the children. -/
  | down {e c : Expr} {way : List Expr} : c ∈ e.children → WayDown c way → WayDown e (e :: way)

/-- How many expressions a way may meet without an operator and without nesting deeper. -/
def spare (e : Expr) : Nat :=
  if e.level = 12 then 1 else 2

/-- How many expressions a way down an expression may meet. -/
def room (e : Expr) : Nat :=
  e.nesting + e.operators + e.spare

theorem spare_bounds (e : Expr) : 1 ≤ e.spare ∧ e.spare ≤ 2 := by
  rw [spare]
  split <;> decide

/-- Parentheses only make an expression nest deeper. -/
theorem nesting_le_fitNesting (k : Nat) (e : Expr) :
    e.nesting ≤ fitNesting k e.level e.nesting := by
  rw [fitNesting]
  split <;> omega

/-- What a filter filters is primary or stands in parentheses. -/
theorem nesting_add_spare_le (e : Expr) :
    e.nesting + e.spare ≤ fitNesting 12 e.level e.nesting + 1 := by
  have := e.level_bounds.2
  rw [fitNesting, spare]
  split <;> split <;> omega

theorem operators_le_operatorsIn {c : Expr} {es : List Expr} (h : c ∈ es) :
    c.operators ≤ operatorsIn es :=
  List.le_sum_of_mem (List.mem_map_of_mem h)

/-- A child has all operators but the expression itself. -/
theorem operators_le_of_mem_children {c e : Expr} (h : c ∈ e.children) :
    c.operators + (if e.isOperator then 1 else 0) ≤ e.operators := by
  have := operators_le_operatorsIn h
  rw [operators_eq e]
  omega

/-- What stands in brackets nests two deeper. -/
theorem nesting_le_of_mem_steps {c : Expr} {steps : List Step}
    (h : c ∈ steps.flatMap Step.predicates) :
    c.nesting + 2 ≤ greatest (steps.map Step.nesting) := by
  obtain ⟨s, hs, hc⟩ := List.mem_flatMap.mp h
  exact greatest_steps_le.mp le_rfl s hs c hc

/-- An expression that is no operator nests deeper than its children or has more to spare. -/
theorem nesting_le_of_mem_children {c e : Expr} (h : c ∈ e.children) :
    c.nesting + c.spare + (if e.isOperator then 0 else 1) ≤ e.nesting + e.spare := by
  have hspare := c.spare_bounds
  cases e with
  | number | literal | «variable» => cases h
  | binary op left right =>
    have hop : (binary op left right).spare = 2 := by
      cases op <;> rfl
    have hl := nesting_le_fitNesting op.level left
    have hr := nesting_le_fitNesting (op.level + 1) right
    simp only [children, List.mem_cons, List.not_mem_nil, or_false] at h
    show c.nesting + c.spare + 0 ≤ _
    rw [hop, nesting]
    rcases h with rfl | rfl <;> omega
  | union left right =>
    have hl := nesting_le_fitNesting 9 left
    have hr := nesting_le_fitNesting 10 right
    simp only [children, List.mem_cons, List.not_mem_nil, or_false] at h
    show c.nesting + c.spare + 0 ≤ (union left right).nesting + 2
    rw [nesting]
    rcases h with rfl | rfl <;> omega
  | negate operand =>
    obtain rfl := List.mem_singleton.mp h
    have ho := nesting_le_fitNesting 8 c
    show c.nesting + c.spare + 1 ≤ (negate c).nesting + 2
    rw [nesting]
    omega
  | call function arguments =>
    have ha := greatest_enclosed_le.mp le_rfl c (show c ∈ arguments from h)
    show c.nesting + c.spare + 1 ≤ (call function arguments).nesting + 1
    rw [nesting]
    omega
  | path absolute steps =>
    have hs := nesting_le_of_mem_steps h
    show c.nesting + c.spare + 1 ≤ (path absolute steps).nesting + 2
    rw [nesting]
    omega
  | filter primary predicates steps =>
    show c.nesting + c.spare + 1 ≤ (filter primary predicates steps).nesting + 2
    rw [nesting]
    rcases List.mem_append.mp h with h | h
    · rcases List.mem_cons.mp h with rfl | h
      · have hp := nesting_add_spare_le c
        omega
      · have he := greatest_enclosed_le.mp le_rfl c h
        omega
    · have hs := nesting_le_of_mem_steps h
      omega

/-- Every step of a way leaves less room for the rest of it. -/
theorem room_lt_of_mem_children {c e : Expr} (h : c ∈ e.children) : c.room < e.room := by
  have hoperators := operators_le_of_mem_children h
  have hnesting := nesting_le_of_mem_children h
  rw [room, room]
  split at hoperators
  next hop =>
    rw [if_pos hop] at hnesting
    omega
  next hop =>
    rw [if_neg hop] at hnesting
    omega

/-- A way meets no more expressions than there is room for. -/
theorem WayDown.length_le {e : Expr} {way : List Expr} (h : e.WayDown way) :
    way.length ≤ e.room := by
  induction h with
  | stop e =>
    have := e.spare_bounds
    rw [List.length_singleton, room]
    omega
  | down hc _ ih =>
    rw [List.length_cons]
    exact ih.trans_lt (room_lt_of_mem_children hc)

end Expr

/-- Expressions that are read from a text are bounded, however long the text is: they hold at most
512 operators, and no way down one meets more than 768 expressions. -/
theorem parse_bounded (expression : String) (e : Expr) (h : Expr.parse expression = .ok e) :
    (e.operators ≤ maxOperators ∧ maxOperators = 512) ∧
      ∀ way, e.WayDown way →
        way.length ≤ maxDepth + maxOperators ∧ maxDepth + maxOperators = 768 := by
  obtain ⟨-, hnesting, hoperators⟩ := Expr.allowed_of_parse h
  refine ⟨⟨hoperators, rfl⟩, fun way hway => ⟨?_, rfl⟩⟩
  have hspare := e.spare_bounds.2
  calc way.length
      ≤ e.nesting + e.operators + e.spare := hway.length_le
    _ ≤ e.nesting + 2 + e.operators := by omega
    _ ≤ maxDepth + maxOperators := Nat.add_le_add hnesting hoperators

/-- The way down to the variable in `a - (b|$x)[c]`. -/
theorem parse_bounded_difference :
    let a := Expr.path false [.mk .child (.name "a") []]
    let union := Expr.union (.path false [.mk .child (.name "b") []]) (.variable "x" 7)
    let filter := Expr.filter union [.path false [.mk .child (.name "c") []]] []
    let e := Expr.binary .subtract a filter
    Expr.parse "a - (b|$x)[c]" = .ok e ∧ e.WayDown [e, filter, union, .variable "x" 7] ∧
      e.operators ≤ maxOperators ∧
        [e, filter, union, .variable "x" 7].length ≤ maxDepth + maxOperators := by
  intro a union filter e
  have hparse : Expr.parse "a - (b|$x)[c]" = .ok e := by cbv
  have hway : e.WayDown [e, filter, union, .variable "x" 7] :=
    .down (.tail _ (.head _)) (.down (.head _) (.down (.tail _ (.head _)) (.stop _)))
  obtain ⟨hoperators, hlength⟩ := parse_bounded _ e hparse
  exact ⟨hparse, hway, hoperators.1, (hlength _ hway).1⟩

end HtmlQuery
