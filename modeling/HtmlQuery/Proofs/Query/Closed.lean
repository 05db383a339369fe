import HtmlQuery.Proofs.Query.Typing

/-!
# Closed expressions

Evaluation passes the focus down to operands and arguments, and what looks at it there is a path
from the current node, a function that asks for a place in the list, and a function that takes the
current node for an argument that is left out.  Predicates and the steps behind an expression are
evaluated at other foci, those of the nodes that they are about.

An expression is closed if nothing in it looks at the focus of the whole.  Then it has one value in
each tree (`Expr.Closed.eval_eq`), or fails in one way.
-/

namespace HtmlQuery

/-- A call of the function with these arguments looks at the focus: at the place of the current node
in its list, or at the current node in place of the argument that is left out. -/
def Function.ReadsFocus : Function → List Expr → Prop
  | .last, _ | .position, _ => True
  | .name, arguments | .localName, arguments | .string, arguments | .stringLength, arguments
  | .normalizeSpace, arguments | .number, arguments => arguments = []
  | _, _ => False

/-- Nothing in the expression looks at the focus of the whole.  A path has to begin at the top of the
document.  What its steps and the predicates of a filter look at does not matter. -/
inductive Expr.Closed : Expr → Prop where
  | number (value : Float) : Closed (.number value)
  | literal (text : String) : Closed (.literal text)
  | variable (name : String) (position : Nat) : Closed (.variable name position)
  | binary {op : BinaryOp} {left right : Expr} :
    Closed left → Closed right → Closed (.binary op left right)
  | negate {operand : Expr} : Closed operand → Closed (.negate operand)
  | call {function : Function} {arguments : List Expr} :
    ¬ function.ReadsFocus arguments → (∀ e ∈ arguments, Closed e) →
      Closed (.call function arguments)
  | union {left right : Expr} : Closed left → Closed right → Closed (.union left right)
  | path (steps : List Step) : Closed (.path true steps)
  | filter {primary : Expr} (predicates : List Expr) (steps : List Step) :
    Closed primary → Closed (.filter primary predicates steps)

/-! ## Two foci -/

section Foci

variable {top : Node} {focus focus' : Focus}

/-- A function that does not look at the focus, with as many arguments as it takes, gives the same at
every focus. -/
theorem Function.apply_eq_of_not_readsFocus {function : Function} {arguments : List Expr}
    {values : List Value} (h : ¬ function.ReadsFocus arguments)
    (ha : function.arity.allows arguments.length = Bool.true)
    (hlength : values.length = arguments.length) :
    function.apply focus values = function.apply focus' values := by
  rcases Nat.eq_zero_or_pos function.arity.least with hleast | hleast
  · cases function with
    | last | position => exact absurd trivial h
    | name | localName | string | stringLength | normalizeSpace | number =>
      cases values with
      | nil => exact absurd (List.length_eq_zero_iff.mp hlength.symm) h
      | cons v vs => rfl
    | true | false => rfl
    | _ => cases hleast
  · exact apply_eq_of_required hleast (hlength ▸ Arity.least_le ha) focus focus'

theorem evalArguments_congr {es : List Expr}
    (h : ∀ e ∈ es, e.eval top focus = e.eval top focus') :
    evalArguments top es focus = evalArguments top es focus' := by
  induction es with
  | nil => rw [evalArguments, evalArguments]
  | cons e es ih =>
    obtain ⟨he, hes⟩ := List.forall_mem_cons.mp h
    rw [evalArguments, evalArguments, he, ih hes]

theorem Expr.eval_binary_congr {op : BinaryOp} {left right : Expr}
    (hl : left.eval top focus = left.eval top focus')
    (hr : right.eval top focus = right.eval top focus') :
    (binary op left right).eval top focus = (binary op left right).eval top focus' := by
  cases op
  all_goals simp only [eval, hl, hr]

/-- A closed expression gives the same at every focus. -/
theorem Expr.Closed.eval_eq {e : Expr} (hc : e.Closed) (hw : e.WellFormed) :
    e.eval top focus = e.eval top focus' := by
  induction hc with
  | number value => rw [eval, eval]
  | literal text => rw [eval, eval]
  | «variable» name position => rw [eval, eval]
  | binary _ _ ihl ihr =>
    obtain ⟨-, hchildren⟩ := wellFormed_iff.mp hw
    exact eval_binary_congr (ihl (hchildren _ List.mem_cons_self))
      (ihr (hchildren _ (List.mem_cons_of_mem _ List.mem_cons_self)))
  | negate _ ih =>
    obtain ⟨-, hchildren⟩ := wellFormed_iff.mp hw
    rw [eval, eval, ih (hchildren _ List.mem_cons_self)]
  | call hreads _ ih =>
    obtain ⟨hchecked, hchildren⟩ := wellFormed_iff.mp hw
    rw [eval, eval, evalArguments_congr fun e he => ih e he (hchildren e he)]
    cases hvalues : evalArguments top _ focus' with
    | error error => rfl
    | ok values =>
      have hlength := (forall₂_of_evalArguments hvalues).length_eq
      exact Function.apply_eq_of_not_readsFocus hreads hchecked hlength.symm
  | union _ _ ihl ihr =>
    obtain ⟨-, hchildren⟩ := wellFormed_iff.mp hw
    rw [eval, eval, ihl (hchildren _ List.mem_cons_self),
      ihr (hchildren _ (List.mem_cons_of_mem _ List.mem_cons_self))]
  | path steps => rw [eval, eval, if_pos rfl, if_pos rfl]
  | filter predicates steps _ ih =>
    obtain ⟨-, hchildren⟩ := wellFormed_iff.mp hw
    rw [eval, eval, ih (hchildren _ List.mem_cons_self)]

/-- A query for a closed expression has one answer in each tree, wherever it is asked and wherever it
starts. -/
theorem Query.evaluate_eq_of_closed {q q' : Query} {n m : Node} (he : q.expr = q'.expr)
    (hc : q.expr.Closed) (hw : q.expr.WellFormed) (hd : n.document = m.document) :
    q.evaluate n = q'.evaluate m := by
  rw [evaluate, evaluate, Expr.valueAt, Expr.valueAt, document_start, document_start, hd, ← he]
  exact hc.eval_eq hw

end Foci

/-- Closed expressions read the same from everywhere.  What is read from a text and is closed has the
same outcome, value or error, at any two foci in one tree.  So a query for it has the same outcome
from any two nodes of a tree, whether it starts at the node that it is asked of or at the top. -/
theorem closed_reads_same (expression : String) (e : Expr) (h : Expr.parse expression = .ok e)
    (hc : e.Closed) :
    (∀ focus focus' : Focus, focus.node.document = focus'.node.document →
      e.eval focus.node.document focus = e.eval focus'.node.document focus') ∧
    ∀ (q q' : Query) (n m : Node), q.expr = e → q'.expr = e → n.document = m.document →
      q.evaluate n = q'.evaluate m := by
  have hw := (Expr.allowed_of_parse h).wellFormed
  constructor
  · intro focus focus' hd
    rw [hd]
    exact hc.eval_eq hw
  · rintro q q' n m rfl hq' hd
    exact Query.evaluate_eq_of_closed hq'.symm hc hw hd

/-- Relative paths in predicates do not matter.  Asked of the attribute of the small page and of its
top, from there or from the top, the query finds the same two nodes. -/
theorem closed_reads_same_smallPage :
    let expression := "//b|(/a)[@x]"
    let x := (smallPage.descendants.flatMap Node.attributeNodes).get ⟨0, by decide⟩
    ∃ e, Expr.parse expression = .ok e ∧ e.Closed ∧ x.document = smallPage.document ∧
      Query.evaluate ⟨expression, .here, e⟩ x = Query.evaluate ⟨expression, .document, e⟩ smallPage ∧
        (Query.select ⟨expression, .here, e⟩ x).map (List.map Node.tagName?) =
          .ok [some "a", some "b"] := by
  intro expression x
  let e : Expr := .union (.path true [.descendantOrSelf, .mk .child (.name "b") []])
    (.filter (.path true [.mk .child (.name "a") []])
      [.path false [.mk .attribute (.name "x") []]] [])
  have hparse : Expr.parse expression = .ok e := by cbv
  have hclosed : e.Closed := .union (.path _) (.filter _ _ (.path _))
  have hd : x.document = smallPage.document := by
    obtain ⟨owner, howner, hx⟩ := List.mem_flatMap.mp (List.get_mem _ _ : x ∈ _)
    exact (Axis.attribute.document_of_mem hx).trans (Axis.descendant.document_of_mem howner)
  obtain ⟨-, hqueries⟩ := closed_reads_same expression e hparse hclosed
  exact ⟨e, hparse, hclosed, hd, hqueries _ _ x smallPage rfl rfl hd, by cbv⟩

end HtmlQuery
