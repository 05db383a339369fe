import HtmlQuery.Proofs.Query.Parsing
import HtmlQuery.Proofs.Query.Subexpression

/-!
# Expressions as tokens

`Expr.tokens` writes an expression with every axis spelled out and with no more parentheses than the
levels of the grammar ask for: `Expr.level` is how tightly an expression is held together, and where
one of a tighter level is wanted (`fit`), parentheses stand around it.  Operators of one level group
to the left, so their right operand has to be tighter than their left one.

`Expr.nesting` is how deep that writing nests: two for parentheses, for brackets and for the
parentheses of a call, because what stands in them is read from the loosest level again, and one for
a minus sign.

What is written is read as the same expression (`Parser.rereads`), up to the positions of
variables, which `Expr.erase` forgets.  The induction is on the parts of the expression.  Its
hypothesis says more than that the parts are read: those on a level of chains may also be the
beginning of a longer chain, which is what a left operand of the same level is.
-/

namespace HtmlQuery

/-! ## Levels -/

namespace BinaryOp

/-- How tightly an operator binds. -/
def level : BinaryOp → Nat
  | or => 2
  | and => 3
  | equal | notEqual => 4
  | less | lessEqual | greater | greaterEqual => 5
  | add | subtract => 6
  | multiply | divide | modulo => 7

/-- The symbol of an operator. -/
def symbol : BinaryOp → Symbol
  | or => .or
  | and => .and
  | equal => .equal
  | notEqual => .notEqual
  | less => .less
  | lessEqual => .lessEqual
  | greater => .greater
  | greaterEqual => .greaterEqual
  | add => .plus
  | subtract => .minus
  | multiply => .multiply
  | divide => .div
  | modulo => .mod

theorem chained_level (op : BinaryOp) : Parser.Chained op.level := by
  left
  cases op <;> decide

/-- On its own level, the symbol of an operator makes that operator of two operands. -/
theorem joinAt_symbol (op : BinaryOp) : Parser.joinAt op.level op.symbol = some (.binary op) := by
  cases op <;> rfl

end BinaryOp

/-- How tightly an expression is held together. -/
def Expr.level : Expr → Nat
  | binary op _ _ => op.level
  | negate _ => 8
  | union _ _ => 9
  | path _ _ | filter _ _ _ => 10
  | number _ | literal _ | .variable _ _ | call _ _ => 12

/-- Every level but the one between a path and a primary operand is the level of an expression. -/
theorem Expr.level_bounds (e : Expr) : 2 ≤ e.level ∧ (e.level ≤ 10 ∨ e.level = 12) := by
  cases e with
  | binary op => cases op <;> simp [level, BinaryOp.level]
  | _ => simp [level]

/-! ## Tokens -/

/-- Tokens in parentheses. -/
def inParens (tokens : List Token) : List Token :=
  .symbol .leftParen :: (tokens ++ [.symbol .rightParen])

/-- Tokens in brackets. -/
def inBrackets (tokens : List Token) : List Token :=
  .symbol .leftBracket :: (tokens ++ [.symbol .rightBracket])

/-- The tokens of an expression of some level where one of level `k` is wanted. -/
def fit (k level : Nat) (tokens : List Token) : List Token :=
  if level < k then inParens tokens else tokens

/-- The tokens of a node test. -/
def NodeTest.tokens : NodeTest → List Token
  | .name n => [.name n]
  | .any => [.name "*"]
  | .node => .nodeType "node" :: inParens []
  | .text => .nodeType "text" :: inParens []
  | .comment => .nodeType "comment" :: inParens []
  | .instruction none => .nodeType "processing-instruction" :: inParens []
  | .instruction (some target) => .nodeType "processing-instruction" :: inParens [.literal target]

mutual

/-- The tokens of an expression. -/
def Expr.tokens : Expr → List Token
  | .number value => [.number value]
  | .literal text => [.literal text]
  | .variable name _ => [.variable name]
  | .binary op left right =>
    fit op.level left.level left.tokens ++
      .symbol op.symbol :: fit (op.level + 1) right.level right.tokens
  | .negate operand => .symbol .minus :: fit 8 operand.level operand.tokens
  | .call function arguments =>
    .function function.spelling ::
      inParens ([.symbol .comma].intercalate (arguments.map Expr.tokens))
  | .union left right =>
    fit 9 left.level left.tokens ++ .symbol .pipe :: fit 10 right.level right.tokens
  | .path false steps => [.symbol .slash].intercalate (steps.map Step.tokens)
  | .path true steps => .symbol .slash :: [.symbol .slash].intercalate (steps.map Step.tokens)
  | .filter primary predicates steps =>
    fit 12 primary.level primary.tokens ++
      ((predicates.map fun e => inBrackets e.tokens).flatten ++
        (steps.map fun s => .symbol .slash :: s.tokens).flatten)

/-- The tokens of a step. -/
def Step.tokens : Step → List Token
  | .mk axis test predicates =>
    .axis axis.name :: .symbol .colonColon ::
      (test.tokens ++ (predicates.map fun e => inBrackets e.tokens).flatten)

end

/-- Steps behind a slash each are steps with slashes between them, and one more slash. -/
theorem flatten_slashes {first : List Token} {rest : List (List Token)} :
    ((first :: rest).map (.symbol .slash :: ·)).flatten =
      .symbol .slash :: [.symbol .slash].intercalate (first :: rest) := by
  induction rest generalizing first with
  | nil => simp [List.intercalate]
  | cons second rest ih =>
    rw [List.map_cons, List.flatten_cons, ih, List.intercalate_cons_cons]
    simp

/-! ## Nesting -/

/-- The greatest number of a list. -/
def greatest (numbers : List Nat) : Nat :=
  numbers.foldr max 0

/-- The greatest of some numbers is within a bound if they all are. -/
theorem greatest_le {numbers : List Nat} {bound : Nat} :
    greatest numbers ≤ bound ↔ ∀ n ∈ numbers, n ≤ bound := by
  induction numbers with
  | nil => simp [greatest]
  | cons n numbers ih =>
    rw [List.forall_mem_cons, ← ih]
    exact max_le_iff

/-- How deep an expression of some level nests where one of level `k` is wanted. -/
def fitNesting (k level nesting : Nat) : Nat :=
  if level < k then nesting + 2 else nesting

mutual

/-- How deep the tokens of an expression nest. -/
def Expr.nesting : Expr → Nat
  | .number _ | .literal _ | .variable _ _ => 0
  | .binary op left right =>
    max (fitNesting op.level left.level left.nesting)
      (fitNesting (op.level + 1) right.level right.nesting)
  | .negate operand => fitNesting 8 operand.level operand.nesting + 1
  | .call _ arguments => greatest (arguments.map fun e => e.nesting + 2)
  | .union left right =>
    max (fitNesting 9 left.level left.nesting) (fitNesting 10 right.level right.nesting)
  | .path _ steps => greatest (steps.map Step.nesting)
  | .filter primary predicates steps =>
    max (fitNesting 12 primary.level primary.nesting)
      (max (greatest (predicates.map fun e => e.nesting + 2)) (greatest (steps.map Step.nesting)))

/-- How deep the tokens of a step nest. -/
def Step.nesting : Step → Nat
  | .mk _ _ predicates => greatest (predicates.map fun e => e.nesting + 2)

end

theorem greatest_enclosed_le {es : List Expr} {bound : Nat} :
    greatest (es.map fun e => e.nesting + 2) ≤ bound ↔ ∀ e ∈ es, e.nesting + 2 ≤ bound := by
  rw [greatest_le, List.forall_mem_map]

theorem Step.nesting_le {s : Step} {bound : Nat} :
    s.nesting ≤ bound ↔ ∀ e ∈ s.predicates, e.nesting + 2 ≤ bound := by
  obtain ⟨axis, test, predicates⟩ := s
  rw [Step.nesting]
  exact greatest_enclosed_le

theorem greatest_steps_le {ss : List Step} {bound : Nat} :
    greatest (ss.map Step.nesting) ≤ bound ↔
      ∀ s ∈ ss, ∀ e ∈ s.predicates, e.nesting + 2 ≤ bound := by
  rw [greatest_le, List.forall_mem_map]
  exact forall₂_congr fun s _ => Step.nesting_le

/-! ## Positions of variables -/

mutual

/-- An expression without the positions of its variables. -/
def Expr.erase : Expr → Expr
  | .number value => .number value
  | .literal text => .literal text
  | .variable name _ => .variable name 0
  | .binary op left right => .binary op left.erase right.erase
  | .negate operand => .negate operand.erase
  | .call function arguments => .call function (arguments.map Expr.erase)
  | .union left right => .union left.erase right.erase
  | .path absolute steps => .path absolute (steps.map Step.erase)
  | .filter primary predicates steps =>
    .filter primary.erase (predicates.map Expr.erase) (steps.map Step.erase)

/-- A step without the positions of variables. -/
def Step.erase : Step → Step
  | .mk axis test predicates => .mk axis test (predicates.map Expr.erase)

end

/-! ## Reading what is written -/

theorem map_eq_of_forall₂ {α β γ : Type} {f : α → γ} {g : β → γ} {xs : List α} {ys : List β}
    (h : List.Forall₂ (fun x y => g y = f x) xs ys) : ys.map g = xs.map f := by
  induction h with
  | nil => rfl
  | cons h _ ih => rw [List.map_cons, List.map_cons, h, ih]

namespace Parser

/-- A symbol joins two expressions to one of level `k`. -/
structure Joins (k : Nat) (found : Symbol) (f : Expr → Expr → Expr) : Prop where
  level : ∀ left right, (f left right).level = k
  children : ∀ left right, (f left right).children = [left, right]
  isOperator : ∀ left right, (f left right).isOperator = true
  checked : ∀ left right, (f left right).Checked
  tokens : ∀ left right, (f left right).tokens =
    fit k left.level left.tokens ++ .symbol found :: fit (k + 1) right.level right.tokens
  nesting : ∀ left right, (f left right).nesting =
    max (fitNesting k left.level left.nesting) (fitNesting (k + 1) right.level right.nesting)
  erase : ∀ left right, (f left right).erase = f left.erase right.erase

/-- A symbol between two expressions is one operator more. -/
theorem Joins.operators {k : Nat} {found : Symbol} {f : Expr → Expr → Expr} (h : Joins k found f)
    (left right : Expr) :
    (f left right).operators = left.operators + 1 + right.operators := by
  rw [Expr.operators_eq, h.children, h.isOperator]
  simp only [if_true, Expr.operatorsIn_cons, Expr.operatorsIn_nil]
  omega

theorem joins_binary (op : BinaryOp) : Joins op.level op.symbol (.binary op) where
  level _ _ := rfl
  children _ _ := rfl
  isOperator _ _ := rfl
  checked _ _ := trivial
  tokens _ _ := by rw [Expr.tokens]
  nesting _ _ := by rw [Expr.nesting]
  erase _ _ := by rw [Expr.erase]

theorem joins_union : Joins 9 .pipe .union where
  level _ _ := rfl
  children _ _ := rfl
  isOperator _ _ := rfl
  checked _ _ := trivial
  tokens _ _ := by rw [Expr.tokens]
  nesting _ _ := by rw [Expr.nesting]
  erase _ _ := by rw [Expr.erase]

/-- What the symbols of a level make of two expressions. -/
theorem joins_of_joinAt {k : Nat} {found : Symbol} {f : Expr → Expr → Expr} (hk : Chained k)
    (h : joinAt k found = some f) : Joins k found f := by
  rcases hk with ⟨hl, hu⟩ | rfl
  · have hop : ∃ op : BinaryOp, op.level = k ∧ op.symbol = found ∧ f = .binary op := by
      interval_cases k <;> cases found <;>
        first | exact ⟨_, rfl, rfl, (Option.some.inj h).symm⟩ | cases h
    obtain ⟨op, rfl, rfl, rfl⟩ := hop
    exact joins_binary op
  · cases found
    all_goals first | cases h
    exact joins_union

/-- A parser of whole expressions reads the tokens of an expression as that expression. -/
def Returns (expr : Parse Expr) (e : Expr) : Prop :=
  Reads (run expr) 2 e.tokens e.operators (·.erase = e.erase)

theorem ne_nil_of_map_eq {α β : Type} {f : α → β} {as bs : List α} (h : as.map f = bs.map f)
    (hne : bs ≠ []) : as ≠ [] := by
  rintro rfl
  exact hne (List.map_eq_nil_iff.mp h.symm)

theorem map_cons_congr {α β : Type} {f : α → β} {a b : α} {as bs : List α} (h : f a = f b)
    (h' : as.map f = bs.map f) : (a :: as).map f = (b :: bs).map f := by
  rw [List.map_cons, h, h', List.map_cons]

section Parts

variable {expr : Parse Expr} {es : List Expr} {ss : List Step}

/-- A test that passes its check is read from its tokens as itself. -/
theorem reads_nodeTest {test : NodeTest} (h : test.Checked) :
    Reads (run nodeTest) 12 test.tokens 0 (· = test) := by
  cases test with
  | name n => exact reads_nodeTest_name h.1 h.2
  | any => exact reads_nodeTest_any
  | node | text | comment => exact reads_nodeTest_type _
  | instruction target =>
    cases target with
    | none => exact reads_nodeTest_type _
    | some target => exact reads_nodeTest_target target

/-- Predicates are read from their brackets, each as itself. -/
theorem reads_predicates (h : ∀ e ∈ es, Returns expr e) :
    Reads (run (predicates expr)) 11 (es.map fun e => inBrackets e.tokens).flatten
      (Expr.operatorsIn es) (·.map Expr.erase = es.map Expr.erase) := by
  induction es with
  | nil => exact reads_predicates_nil.imp (congrArg _)
  | cons e es ih =>
    obtain ⟨he, hes⟩ := List.forall_mem_cons.mp h
    have hread := he.predicates_cons (ih hes) (R := (·.map Expr.erase = (e :: es).map Expr.erase))
      map_cons_congr
    simpa [inBrackets] using hread

theorem reads_step {s : Step} (h : s.Tested (Returns expr)) :
    Reads (run (step expr)) 11 s.tokens (Expr.operatorsIn s.predicates) (·.erase = s.erase) := by
  obtain ⟨axis, test, predicates⟩ := s
  rw [Step.tokens]
  refine (reads_nodeTest h.1).step_axis (reads_predicates h.2) fun hes => ?_
  rw [Step.erase, Step.erase, hes]
  rfl

/-- Steps are read with a slash between any two of them. -/
theorem reads_steps (hne : ss ≠ [])
    (h : ∀ s ∈ ss, s.Tested (Returns expr)) :
    Reads (run (steps expr)) 10 ([.symbol .slash].intercalate (ss.map Step.tokens))
      (Expr.operatorsIn (ss.flatMap Step.predicates)) (·.map Step.erase = ss.map Step.erase) := by
  induction ss with
  | nil => exact absurd rfl hne
  | cons s ss ih =>
    obtain ⟨hs, hss⟩ := List.forall_mem_cons.mp h
    have hread := reads_step hs
    cases ss with
    | nil =>
      have hone := hread.steps_one (R := (·.map Step.erase = [s].map Step.erase))
        fun he => map_cons_congr he rfl
      simpa [List.intercalate] using hone
    | cons s' ss =>
      have hmore := hread.steps_slash (ih (List.cons_ne_nil _ _) hss)
        (R := (·.map Step.erase = (s :: s' :: ss).map Step.erase)) map_cons_congr
      rw [List.map_cons, List.map_cons, List.intercalate_cons_cons, List.flatMap_cons,
        Expr.operatorsIn_append]
      simpa using hmore

theorem reads_stepsBehind
    (h : ∀ s ∈ ss, s.Tested (Returns expr)) :
    Reads (run (stepsBehind expr)) 10 (ss.map fun s => .symbol .slash :: s.tokens).flatten
      (Expr.operatorsIn (ss.flatMap Step.predicates)) (·.map Step.erase = ss.map Step.erase) := by
  cases ss with
  | nil => exact reads_stepsBehind_nil.imp (congrArg _)
  | cons s ss =>
    have hread := (reads_steps (List.cons_ne_nil s ss) h).stepsBehind_slash
    rw [List.map_cons, ← flatten_slashes, ← List.map_cons, List.map_map] at hread
    exact hread

end Parts

section Whole

variable {k l depth cost : Nat} {tokens : List Token} {P : Expr → Prop} {e : Expr}

/-- An expression of a level stands where a looser one is wanted. -/
theorem ReadsAt.wanted (h : ReadsAt depth l tokens cost P) (hl : l ≤ 10 ∨ l = 12) (hk : 2 ≤ k)
    (hk' : k ≤ 10 ∨ k = 12) (hkl : k ≤ l) : ReadsAt depth k tokens cost P := by
  rcases hl with hl | rfl
  · exact h.loosen ⟨hk, hkl, hl⟩
  · rcases hk' with hk' | rfl
    · exact h.path.loosen ⟨hk, hk', le_rfl⟩
    · exact h

/-- The tokens of an expression are read as that expression where its nesting is allowed.  If it is
a chain, they may also be the beginning of a longer one. -/
def Rereads (e : Expr) : Prop :=
  ∀ depth, e.nesting ≤ depth →
    ReadsAt depth e.level e.tokens e.operators (·.erase = e.erase) ∧
      (Chained e.level → LeadsAt depth e.level e.tokens e.operators (·.erase = e.erase))

theorem Rereads.of_readsAt (hlevel : e.level = k) (hcost : e.operators = cost) (hk : ¬ Chained k)
    (h : ∀ depth, e.nesting ≤ depth → ReadsAt depth k e.tokens cost (·.erase = e.erase)) :
    Rereads e := by
  subst hlevel hcost
  exact fun depth hd => ⟨h depth hd, fun hc => absurd hc hk⟩

/-- What is read from the loosest level again nests two deeper. -/
theorem Rereads.returns (h : Rereads e) (hd : e.nesting + 2 ≤ depth) :
    Returns (parseOr depth) e := by
  obtain ⟨depth, rfl⟩ := Nat.exists_eq_add_of_le' (Nat.le_of_add_left_le hd)
  have hread := (h depth (by omega)).1
  obtain ⟨hlow, hhigh⟩ := e.level_bounds
  exact (hread.wanted hhigh le_rfl (by decide) hlow).parseOr (by decide)

/-- An expression is read where a tighter one is wanted, because it has parentheses there. -/
theorem Rereads.fit (h : Rereads e) (hk : 2 ≤ k) (hk' : k ≤ 10 ∨ k = 12)
    (hd : fitNesting k e.level e.nesting ≤ depth) :
    ReadsAt depth k (fit k e.level e.tokens) e.operators (·.erase = e.erase) := by
  rw [HtmlQuery.fit]
  rw [fitNesting] at hd
  split at hd
  next hlt =>
    rw [if_pos hlt]
    have hparen : ReadsAt depth 12 (inParens e.tokens) e.operators (·.erase = e.erase) :=
      Reads.primary_paren (h.returns hd)
    exact hparen.wanted (.inr rfl) hk hk' (by omega)
  next hle =>
    rw [if_neg hle]
    exact (h depth hd).1.wanted e.level_bounds.2 hk hk' (Nat.le_of_not_lt hle)

/-- The left operand of a chain may be a chain of the same level. -/
theorem Rereads.leadsAt (h : Rereads e) (hk : Chained k)
    (hd : fitNesting k e.level e.nesting ≤ depth) :
    LeadsAt depth k (HtmlQuery.fit k e.level e.tokens) e.operators (·.erase = e.erase) := by
  by_cases hlevel : e.level = k
  · subst hlevel
    rw [fitNesting, if_neg (lt_irrefl _)] at hd
    rw [HtmlQuery.fit, if_neg (lt_irrefl _)]
    exact (h depth hd).2 hk
  · -- On no other level does it matter whether `k` is wanted or one level tighter.
    have hiff : e.level < k ↔ e.level < k + 1 := by omega
    have hfit : HtmlQuery.fit k e.level e.tokens = HtmlQuery.fit (k + 1) e.level e.tokens := by
      simp only [HtmlQuery.fit, hiff]
    have hnest : fitNesting k e.level e.nesting = fitNesting (k + 1) e.level e.nesting := by
      simp only [fitNesting, hiff]
    rw [hfit]
    unfold Chained at hk
    exact (h.fit (by omega) (by omega) (hnest ▸ hd)).leadsAt hk

/-- What a symbol joins is read if both operands are. -/
theorem Joins.rereads {found : Symbol} {f : Expr → Expr → Expr} {left right : Expr}
    (h : Joins k found f) (hk : Chained k) (hf : joinAt k found = some f) (hl : Rereads left)
    (hr : Rereads right) : Rereads (f left right) := by
  intro depth hd
  rw [h.nesting, max_le_iff] at hd
  have hright : ReadsAt depth (k + 1) (HtmlQuery.fit (k + 1) right.level right.tokens)
      right.operators (·.erase = right.erase) := by
    unfold Chained at hk
    exact hr.fit (by omega) (by omega) hd.2
  have hlead : LeadsAt depth k (f left right).tokens (f left right).operators
      (·.erase = (f left right).erase) := by
    rw [h.tokens, h.operators]
    refine (hl.leadsAt hk hd.1).snoc hk hf hright fun ha hb => ?_
    rw [h.erase, h.erase, ha, hb]
  rw [h.level]
  exact ⟨hlead.readsAt hk, fun _ => hlead⟩

theorem Rereads.negate {operand : Expr} (h : Rereads operand) : Rereads (.negate operand) := by
  refine .of_readsAt (k := 8) rfl (Expr.operators_of_not rfl) (by decide) fun depth hd => ?_
  rw [Expr.nesting] at hd
  obtain ⟨depth, rfl⟩ := Nat.exists_eq_add_of_le' (Nat.le_of_add_left_le hd)
  have hread : ReadsAt depth 8 (HtmlQuery.fit 8 operand.level operand.tokens) operand.operators
      (·.erase = operand.erase) := h.fit (by decide) (by decide) (Nat.le_of_succ_le_succ hd)
  rw [Expr.tokens]
  refine Reads.negate hread fun he => ?_
  rw [Expr.erase, Expr.erase, he]

theorem Rereads.call {function : Function} {es : List Expr}
    (ha : function.arity.allows es.length = true) (h : ∀ e ∈ es, Rereads e) :
    Rereads (.call function es) := by
  refine .of_readsAt (k := 12) rfl (Expr.operators_of_not rfl) (by decide) fun depth hd => ?_
  rw [Expr.nesting, greatest_enclosed_le] at hd
  have hread := reads_arguments function.spelling (opens_parseOr depth) fun e he =>
    (h e he).returns (hd e he)
  rw [Expr.tokens]
  refine Reads.primary_call hread fun hes => ?_
  exact ⟨hes.length_eq ▸ ha, by rw [Expr.erase, Expr.erase, map_eq_of_forall₂ hes]⟩

theorem Rereads.path {absolute : Bool} {ss : List Step} (hne : absolute = false → ss ≠ [])
    (h : ∀ s ∈ ss, s.Tested Rereads) :
    Rereads (.path absolute ss) := by
  refine .of_readsAt (k := 10) rfl (Expr.operators_of_not rfl) (by decide) fun depth hd => ?_
  rw [Expr.nesting, greatest_steps_le] at hd
  have hss : ∀ s ∈ ss, s.Tested (Returns (parseOr depth)) :=
    fun s hs => ⟨(h s hs).1, fun e he => ((h s hs).2 e he).returns (hd s hs e he)⟩
  have hpath : ∀ {absolute ss'}, ss'.map Step.erase = ss.map Step.erase →
      (Expr.path absolute ss').erase = (Expr.path absolute ss).erase := by
    intro absolute ss' hss'
    rw [Expr.erase, Expr.erase, hss']
  cases absolute with
  | false =>
    rw [Expr.tokens]
    exact (reads_steps (hne rfl) hss).parsePath_steps hpath
  | true =>
    rw [Expr.tokens]
    by_cases hnil : ss = []
    · subst hnil
      exact Reads.imp reads_parsePath_top (congrArg _)
    · exact (reads_steps hnil hss).parsePath_absolute hpath

theorem Rereads.filter {primary : Expr} {es : List Expr} {ss : List Step}
    (hne : es ≠ [] ∨ ss ≠ []) (hp : Rereads primary) (hes : ∀ e ∈ es, Rereads e)
    (hss : ∀ s ∈ ss, s.Tested Rereads) :
    Rereads (.filter primary es ss) := by
  have hcost : (Expr.filter primary es ss).operators = primary.operators +
      (Expr.operatorsIn es + Expr.operatorsIn (ss.flatMap Step.predicates)) := by
    rw [Expr.operators_of_not rfl]
    simp [Expr.children]
  refine .of_readsAt (k := 10) rfl hcost (by decide) fun depth hd => ?_
  rw [Expr.nesting, max_le_iff, max_le_iff, greatest_enclosed_le, greatest_steps_le] at hd
  obtain ⟨hdp, hdes, hdss⟩ := hd
  rw [Expr.tokens]
  refine Reads.filtered (hp.fit (by decide) (by decide) hdp)
    (reads_predicates fun e he => (hes e he).returns (hdes e he))
    (reads_stepsBehind fun s hs =>
      ⟨(hss s hs).1, fun e he => ((hss s hs).2 e he).returns (hdss s hs e he)⟩) ?_ ?_
  · cases ss with
    | nil => exact .nil (by decide)
    | cons => exact .cons (by decide)
  · intro e es' ss' he hes' hss'
    have hne' : es' ≠ [] ∨ ss' ≠ [] := hne.imp (ne_nil_of_map_eq hes') (ne_nil_of_map_eq hss')
    rw [withFilter_of_ne hne', Expr.erase, Expr.erase, he, hes', hss']

/-- Every well-formed expression is read from its tokens. -/
theorem rereads (e : Expr) (hw : e.WellFormed) : Rereads e := by
  induction e using Expr.induction_on_children with
  | h e ih =>
    obtain ⟨hchecked, hchildren⟩ := Expr.wellFormed_iff.mp hw
    replace ih : ∀ c ∈ e.children, Rereads c := fun c hc => ih c hc (hchildren c hc)
    cases e with
    | number value =>
      refine .of_readsAt (k := 12) rfl (Expr.operators_of_not rfl) (by decide) fun depth _ => ?_
      rw [Expr.tokens]
      exact Reads.imp reads_primary_number (congrArg _)
    | literal text =>
      refine .of_readsAt (k := 12) rfl (Expr.operators_of_not rfl) (by decide) fun depth _ => ?_
      rw [Expr.tokens]
      exact Reads.imp reads_primary_literal (congrArg _)
    | «variable» name position =>
      refine .of_readsAt (k := 12) rfl (Expr.operators_of_not rfl) (by decide) fun depth _ => ?_
      rw [Expr.tokens]
      exact reads_primary_variable fun _ => by rw [Expr.erase, Expr.erase]
    | binary op left right =>
      exact (joins_binary op).rereads op.chained_level op.joinAt_symbol
        (ih left List.mem_cons_self) (ih right (List.mem_cons_of_mem _ List.mem_cons_self))
    | union left right =>
      exact joins_union.rereads (by decide) rfl (ih left List.mem_cons_self)
        (ih right (List.mem_cons_of_mem _ List.mem_cons_self))
    | negate operand => exact (ih operand List.mem_cons_self).negate
    | call function es => exact .call hchecked ih
    | path absolute ss =>
      refine .path hchecked.1 fun s hs => ⟨hchecked.2 s hs, fun e he => ih e ?_⟩
      exact List.mem_flatMap_of_mem hs he
    | filter primary es ss =>
      refine .filter hchecked.1 (ih primary List.mem_cons_self)
        (fun e he => ih e (List.mem_append_left _ (List.mem_cons_of_mem _ he)))
        fun s hs => ⟨hchecked.2 s hs, fun e he => ih e ?_⟩
      exact List.mem_append_right _ (List.mem_flatMap_of_mem hs he)

end Whole

end Parser

end HtmlQuery
