import HtmlQuery.Proofs.Query.Evaluation

/-!
# Comparisons and their mirror images

A comparison with its operands exchanged is the comparison by the mirrored operator: `<` becomes `>`
and `<=` becomes `>=`, while `=` and `!=` stay.

Values that are no node-sets are equal as booleans, as numbers or as strings, and which of these
decides does not depend on the side that each of them is on (`Value.equals_comm`).  A node-set
compares as its nodes do, so that the mirror image of a comparison of two node-sets exchanges two
searches, each for one of the nodes.
-/

namespace HtmlQuery

/-- The operator that compares the same with its operands exchanged. -/
def BinaryOp.mirror : BinaryOp → BinaryOp
  | .less => .greater
  | .lessEqual => .greaterEqual
  | .greater => .less
  | .greaterEqual => .lessEqual
  | op => op

theorem BinaryOp.isComparison_mirror (op : BinaryOp) :
    op.mirror.isComparison = op.isComparison := by
  cases op <;> rfl

/-- Comparisons are no connectives, which may leave out their right operand. -/
theorem BinaryOp.ne_connective {op : BinaryOp} (h : op.isComparison = true) :
    op ≠ .or ∧ op ≠ .and := by
  constructor
  all_goals
    rintro rfl
    cases h

namespace Value

/-- Whether two values are equal that are no node-sets: as booleans if one of them is a boolean,
else as numbers if one is a number, else as strings. -/
def equals (l r : Value) : Bool :=
  match l, r with
  | .boolean _, _ => l.toBoolean == r.toBoolean
  | _, .boolean _ => l.toBoolean == r.toBoolean
  | .number _, _ => l.toNumber == r.toNumber
  | _, .number _ => l.toNumber == r.toNumber
  | _, _ => l.toText == r.toText

/-- The conversion that decides is the same from both sides. -/
theorem equals_comm (l r : Value) : l.equals r = r.equals l := by
  cases l <;> cases r <;> exact BEq.comm

end Value

section Atoms

variable {op : BinaryOp} (l r : Value)

theorem compareAtoms_equal : compareAtoms .equal l r = l.equals r :=
  rfl

theorem compareAtoms_notEqual : compareAtoms .notEqual l r = !l.equals r :=
  rfl

theorem compareAtoms_mirror (h : op.isComparison = true) :
    compareAtoms op.mirror r l = compareAtoms op l r := by
  cases op with
  | equal =>
    show compareAtoms .equal r l = _
    rw [compareAtoms_equal, compareAtoms_equal, Value.equals_comm]
  | notEqual =>
    show compareAtoms .notEqual r l = _
    rw [compareAtoms_notEqual, compareAtoms_notEqual, Value.equals_comm]
  | less | lessEqual | greater | greaterEqual => rfl
  | or | and | add | subtract | multiply | divide | modulo => cases h

theorem compareValues_mirror (h : op.isComparison = true) :
    compareValues op.mirror r l = compareValues op l r := by
  cases l with
  | nodeSet ls =>
    cases r with
    | nodeSet rs =>
      rw [Bool.eq_iff_iff]
      simp only [compareValues, List.any_eq_true, List.mem_map, exists_exists_and_eq_and,
        compareAtoms_mirror _ _ h]
      -- Some node of the one set and some node of the other one, found in either order.
      constructor
      · rintro ⟨n, hn, m, hm, hcompare⟩
        exact ⟨m, hm, n, hn, hcompare⟩
      · rintro ⟨m, hm, n, hn, hcompare⟩
        exact ⟨n, hn, m, hm, hcompare⟩
    | boolean | number | string => simp only [compareValues, compareAtoms_mirror _ _ h]
  | boolean | number | string =>
    cases r with
    | nodeSet | boolean | number | string =>
      simp only [compareValues, compareAtoms_mirror _ _ h]

/-- Where no node-set is compared, nothing is both equal and unequal, and nothing is neither. -/
theorem compareValues_notEqual (hl : l.type ≠ .nodeSet) (hr : r.type ≠ .nodeSet) :
    compareValues .notEqual l r = !compareValues .equal l r := by
  cases l with
  | nodeSet => exact absurd rfl hl
  | boolean | number | string =>
    cases r with
    | nodeSet => exact absurd rfl hr
    | boolean | number | string =>
      simp only [compareValues, compareAtoms_equal, compareAtoms_notEqual]

end Atoms

theorem Expr.eval_comparison {op : BinaryOp} {a b : Expr} {top : Node} {focus : Focus}
    {l r : Value} (h : op.isComparison = true) (ha : a.eval top focus = .ok l)
    (hb : b.eval top focus = .ok r) :
    (Expr.binary op a b).eval top focus = .ok (.boolean (compareValues op l r)) := by
  obtain ⟨hor, hand⟩ := BinaryOp.ne_connective h
  rw [eval_binary_of_values hor hand ha hb, if_pos h]

/-- Comparisons are symmetric.  An operator and its mirror image give the same for any two values,
and for any two expressions that have values, with the operands exchanged.  Of values that are no
node-sets, `!=` says the opposite of `=`. -/
theorem comparisons_mirrored (op : BinaryOp) (h : op.isComparison = true) :
    (∀ l r : Value, compareValues op l r = compareValues op.mirror r l) ∧
    (∀ l r : Value, l.type ≠ .nodeSet → r.type ≠ .nodeSet →
      compareValues .notEqual l r = !compareValues .equal l r) ∧
    ∀ (a b : Expr) (top : Node) (focus : Focus) (l r : Value),
      a.eval top focus = .ok l → b.eval top focus = .ok r →
        ∃ result, (Expr.binary op a b).eval top focus = .ok (.boolean result) ∧
          (Expr.binary op.mirror b a).eval top focus = .ok (.boolean result) := by
  refine ⟨fun l r => (compareValues_mirror l r h).symm, compareValues_notEqual, ?_⟩
  intro a b top focus l r ha hb
  refine ⟨compareValues op l r, Expr.eval_comparison h ha hb, ?_⟩
  rw [← compareValues_mirror l r h]
  exact Expr.eval_comparison (op.isComparison_mirror.trans h) hb ha

/-- The attribute of the small page is less than 2 on either side of the operator. -/
theorem comparisons_mirrored_smallPage :
    let x := Expr.path false [.mk .descendant .any [], .mk .attribute .any []]
    let focus : Focus := ⟨smallPage, 1, 1⟩
    BinaryOp.less.isComparison = true ∧
      (∃ ns, x.eval smallPage focus = .ok (.nodeSet ns) ∧
        compareValues .less (.nodeSet ns) (.number 2) = true ∧
        compareValues .less (.nodeSet ns) (.number 2) =
          compareValues .greater (.number 2) (.nodeSet ns)) ∧
      compareValues .notEqual (.string "1") (.number 1) =
        !compareValues .equal (.string "1") (.number 1) ∧
      ∃ result, (Expr.binary .less x (.number 2)).eval smallPage focus = .ok (.boolean result) ∧
        (Expr.binary .greater (.number 2) x).eval smallPage focus = .ok (.boolean result) := by
  intro x focus
  obtain ⟨hvalues, hopposite, hexpressions⟩ := comparisons_mirrored .less rfl
  refine ⟨rfl, ⟨_, rfl, by decide +kernel, hvalues _ _⟩, hopposite _ _ nofun nofun, ?_⟩
  exact hexpressions x (.number 2) smallPage focus _ _ rfl rfl

end HtmlQuery
