import HtmlQuery.Proofs.Query.Running
import Mathlib

/-!
# Two runs of the parser

The parser runs on two lists of tokens that differ in where the tokens stand, and here and there in
an operand (`swaps`).  Wherever it reads such an operand from the first list, it has to read one
from the second list, and to come to expressions that are `alike`.  Then the second run comes to an
expression like that of the first, if the first comes to one.  If nothing is swapped, both fail for
the same reason or neither does.

`Follows` says this of a program over the state, and there is one rule for each shape of program.
The loops of the parser take a token in every round, so it speaks of states with at most so many
tokens, and a loop is an induction over that bound.  The induction over the parser is on the nesting
that is left.
-/

namespace HtmlQuery

/-! ## Relations between expressions -/

/-- Two steps that differ in their predicates only, which are alike one by one. -/
inductive Step.Alike (alike : Expr → Expr → Prop) : Step → Step → Prop
  | mk (axis : Axis) (test : NodeTest) {es es' : List Expr} :
    List.Forall₂ alike es es' → Step.Alike alike (.mk axis test es) (.mk axis test es')

theorem Step.Alike.every {alike : Expr → Expr → Prop} (axis : Axis) :
    Step.Alike alike (.every axis) (.every axis) :=
  .mk axis .node .nil

/-- A relation that expressions inherit from their parts.  Where a variable stands does not
matter. -/
structure Expr.Congruence (alike : Expr → Expr → Prop) : Prop where
  number : ∀ value, alike (.number value) (.number value)
  literal : ∀ text, alike (.literal text) (.literal text)
  anyVariable : ∀ name position position',
    alike (.variable name position) (.variable name position')
  binary : ∀ op {l l' r r'}, alike l l' → alike r r' → alike (.binary op l r) (.binary op l' r')
  negate : ∀ {e e'}, alike e e' → alike (.negate e) (.negate e')
  call : ∀ function {es es'}, List.Forall₂ alike es es' →
    alike (.call function es) (.call function es')
  union : ∀ {l l' r r'}, alike l l' → alike r r' → alike (.union l r) (.union l' r')
  path : ∀ absolute {ss ss'}, List.Forall₂ (Step.Alike alike) ss ss' →
    alike (.path absolute ss) (.path absolute ss')
  filter : ∀ {e e' es es' ss ss'}, alike e e' → List.Forall₂ alike es es' →
    List.Forall₂ (Step.Alike alike) ss ss' → alike (.filter e es ss) (.filter e' es' ss')

namespace Parser

/-! ## Tokens and states -/

section Swaps

variable (swaps : List Token → List Token → Prop)

/-- Two lists of tokens that differ in positions and in swapped operands. -/
inductive Matched : List Located → List Located → Prop
  | nil : Matched [] []
  | cons (token : Token) (position position' : Nat) {rest rest' : List Located} :
    Matched rest rest' → Matched (⟨token, position⟩ :: rest) (⟨token, position'⟩ :: rest')
  | swap {front front' rest rest' : List Located} :
    swaps (front.map (·.token)) (front'.map (·.token)) → Matched rest rest' →
      Matched (front ++ rest) (front' ++ rest')

/-- Two states with such lists, and with as many operators read, which are not too many. -/
structure Similar (s s' : State) : Prop where
  tokens : Matched swaps s.tokens s'.tokens
  operators : s.operators = s'.operators ∧ s.operators ≤ maxOperators

/-- The second of two outcomes is like the first one if that is a value, and the fault is the same
if it is an error and nothing can be swapped. -/
structure Agrees {α : Type} (s : State) (outcome outcome' : Except QueryError (α × State))
    (P : α → α → Prop) : Prop where
  ok : ∀ v t, outcome = .ok (v, t) → t.tokens.length ≤ s.tokens.length ∧
    ∃ v' t', outcome' = .ok (v', t') ∧ P v v' ∧ Similar swaps t t'
  error : ∀ e, outcome = .error e →
    (∃ l l', swaps l l') ∨ ∃ e', outcome' = .error e' ∧ e'.fault = e.fault

/-- Two programs agree where at most so many tokens are left. -/
def Follows {α : Type} (bound : Nat) (x x' : Run α) (P : α → α → Prop) : Prop :=
  ∀ s s', Similar swaps s s' → s.tokens.length ≤ bound → Agrees swaps s (x s) (x' s') P

/-- What is swapped begins with the name of a function and is swapped for something that begins
with one or with a literal.  Where an operand can stand, what is read from both is alike. -/
structure Exchanges (alike : Expr → Expr → Prop) : Prop where
  congruence : Expr.Congruence alike
  begins : ∀ {l l'}, swaps l l' → (∃ name more, l = .function name :: more) ∧
    ((∃ name more, l' = .function name :: more) ∨ ∃ text more, l' = .literal text :: more)
  reads : ∀ {front front' : List Located},
    swaps (front.map (·.token)) (front'.map (·.token)) →
      ∀ depth rest rest' operators finish finish' v t, operators ≤ maxOperators →
        run (primary (parseOr depth)) ⟨front ++ rest, operators, finish⟩ = .ok (v, t) →
          t = ⟨rest, operators, finish⟩ ∧ ∃ v',
            run (primary (parseOr depth)) ⟨front' ++ rest', operators, finish'⟩ =
              .ok (v', ⟨rest', operators, finish'⟩) ∧ alike v v'

end Swaps

section Rules

variable {swaps : List Token → List Token → Prop} {α β : Type} {bound : Nat} {s s' t t' : State}
  {x x' y y' : Run α} {f f' : α → Run β} {v v' : α} {P : α → α → Prop} {Q : β → β → Prop}
  {symbol : Symbol}

theorem Agrees.of_ok (h : P v v') (ht : Similar swaps t t')
    (hle : t.tokens.length ≤ s.tokens.length) : Agrees swaps s (.ok (v, t)) (.ok (v', t')) P where
  ok := by
    rintro _ _ ⟨⟩
    exact ⟨hle, v', t', rfl, h, ht⟩
  error := nofun

/-- Two failures agree if their faults are the same. -/
theorem Agrees.of_error {e e' : QueryError} (h : e'.fault = e.fault) :
    Agrees swaps s (.error e : Except QueryError (α × State)) (.error e') P where
  ok := nofun
  error := by
    rintro _ ⟨⟩
    exact .inr ⟨e', rfl, h⟩

/-- A failure that comes from what is swapped says nothing of the second run. -/
theorem Agrees.of_swap {e : QueryError} {outcome' : Except QueryError (α × State)}
    {l l' : List Token} (h : swaps l l') : Agrees swaps s (.error e) outcome' P where
  ok := nofun
  error _ _ := .inl ⟨l, l', h⟩

theorem Agrees.mono {outcome outcome' : Except QueryError (α × State)}
    (h : Agrees swaps t outcome outcome' P) (hle : t.tokens.length ≤ s.tokens.length) :
    Agrees swaps s outcome outcome' P where
  ok v u hv := by
    obtain ⟨hle', hrest⟩ := h.ok v u hv
    exact ⟨hle'.trans hle, hrest⟩
  error := h.error

/-- What is read behind a token. -/
theorem Agrees.behind (ht : Similar swaps t t') (hlt : t.tokens.length < s.tokens.length)
    (hs : s.tokens.length ≤ bound) (hy : ∀ b < bound, Follows swaps b y y' P) :
    Agrees swaps s (y t) (y' t') P :=
  (hy t.tokens.length (hlt.trans_le hs) t t' ht le_rfl).mono hlt.le

theorem Follows.pure (h : P v v') : Follows swaps bound (pure v) (pure v') P :=
  fun _ _ hs _ => .of_ok h hs le_rfl

/-- Programs that agree may be put in a row. -/
theorem Follows.bind (h : Follows swaps bound x x' P)
    (h' : ∀ v v', P v v' → Follows swaps bound (f v) (f' v') Q) :
    Follows swaps bound (x >>= f) (x' >>= f') Q := by
  intro s s' hs hbound
  have hx := h s s' hs hbound
  cases hrun : x s with
  | error e =>
    have hleft : (x >>= f) s = .error e := by
      show (x s >>= _) = _
      rw [hrun]
      rfl
    refine ⟨fun v t hok => (by cases hleft.symm.trans hok), fun e' he => ?_⟩
    obtain rfl := Except.error.inj (hleft.symm.trans he)
    refine (hx.error _ hrun).imp_right fun ⟨e', he', hfault⟩ => ⟨e', ?_, hfault⟩
    show (x' s' >>= _) = _
    rw [he']
    rfl
  | ok r =>
    obtain ⟨v, t⟩ := r
    obtain ⟨hle, v', t', hrun', hv, ht⟩ := hx.ok v t hrun
    rw [run_bind_of_ok hrun, run_bind_of_ok hrun']
    exact (h' v v' hv t t' ht (hle.trans hbound)).mono hle

theorem Follows.map {g g' : α → β} (h : Follows swaps bound x x' P)
    (hQ : ∀ v v', P v v' → Q (g v) (g' v')) :
    Follows swaps bound (x >>= fun v => Pure.pure (g v)) (x' >>= fun v => Pure.pure (g' v)) Q :=
  h.bind fun v v' hv => .pure (hQ v v' hv)

end Rules

/-! ## The next token -/

section Next

variable {swaps : List Token → List Token → Prop} {alike : Expr → Expr → Prop} {bound : Nat}
  {s s' : State}

/-- What is swapped has a first token on both sides, neither of which is a symbol. -/
theorem Exchanges.fronts (h : Exchanges swaps alike) {front front' : List Located}
    (hswap : swaps (front.map (·.token)) (front'.map (·.token))) :
    (∃ name position more, front = ⟨.function name, position⟩ :: more) ∧
      ∃ token position more, front' = ⟨token, position⟩ :: more ∧
        ((∃ name, token = .function name) ∨ ∃ text, token = .literal text) := by
  obtain ⟨⟨name, more, hl⟩, hr⟩ := h.begins hswap
  constructor
  · match front, hl with
    | ⟨token, position⟩ :: rest, hl =>
      obtain rfl : token = _ := (List.cons.inj hl).1
      exact ⟨name, position, rest, rfl⟩
  · obtain ⟨name, more, hr⟩ | ⟨text, more, hr⟩ := hr
    · match front', hr with
      | ⟨token, position⟩ :: rest, hr =>
        exact ⟨token, position, rest, rfl, .inl ⟨name, (List.cons.inj hr).1⟩⟩
    · match front', hr with
      | ⟨token, position⟩ :: rest, hr =>
        exact ⟨token, position, rest, rfl, .inr ⟨text, (List.cons.inj hr).1⟩⟩

/-- A symbol is next in both lists or in none. -/
theorem Exchanges.symbol_cases (h : Exchanges swaps alike) (hs : Similar swaps s s')
    (symbol : Symbol) :
    (skip? symbol s = none ∧ skip? symbol s' = none) ∨
      ∃ t t', skip? symbol s = some t ∧ skip? symbol s' = some t' ∧ Similar swaps t t' ∧
        t.tokens.length < s.tokens.length := by
  obtain ⟨tokens, operators, finish⟩ := s
  obtain ⟨tokens', operators', finish'⟩ := s'
  obtain ⟨htokens, hoperators⟩ := hs
  cases htokens with
  | nil => exact .inl ⟨skip?_eq_none nofun, skip?_eq_none nofun⟩
  | cons token position position' hrest =>
    by_cases htoken : token = .symbol symbol
    · subst htoken
      exact .inr ⟨_, _, skip?_cons_self, skip?_cons_self, ⟨hrest, hoperators⟩, Nat.lt_succ_self _⟩
    · refine .inl ⟨skip?_eq_none ?_, skip?_eq_none ?_⟩ <;>
      · rintro _ ⟨⟩
        exact htoken
  | swap hswap hrest =>
    obtain ⟨⟨name, position, more, rfl⟩, token, position', more', rfl, htoken⟩ := h.fronts hswap
    refine .inl ⟨skip?_eq_none ?_, skip?_eq_none ?_⟩
    · rintro _ ⟨⟩
      exact Token.noConfusion
    · rintro _ ⟨⟩
      obtain ⟨name, rfl⟩ | ⟨text, rfl⟩ := htoken <;> exact Token.noConfusion

/-- A symbol that is wanted is there in both runs or in neither. -/
theorem Exchanges.follows_expect (h : Exchanges swaps alike) (symbol : Symbol) (fault : Fault) :
    Follows swaps bound (run (expect symbol fault)) (run (expect symbol fault))
      fun _ _ => True := by
  intro s s' hs _
  rw [run_expect, run_expect]
  obtain ⟨hskip, hskip'⟩ | ⟨t, t', hskip, hskip', ht, hlt⟩ := h.symbol_cases hs symbol
  · rw [hskip, hskip']
    exact .of_error rfl
  · rw [hskip, hskip']
    exact .of_ok trivial ht hlt.le

/-- What is read before a closing symbol. -/
theorem Exchanges.closed (h : Exchanges swaps alike) {α β : Type} {x x' : Run α}
    {f f' : α → Run β} {P : α → α → Prop} {Q : β → β → Prop} (hx : Follows swaps bound x x' P)
    (symbol : Symbol) (fault : Fault)
    (h' : ∀ v v', P v v' → Follows swaps bound (f v) (f' v') Q) :
    Follows swaps bound (do let v ← x; let _ ← run (expect symbol fault); f v)
      (do let v ← x'; let _ ← run (expect symbol fault); f' v) Q :=
  hx.bind fun v v' hv => (h.follows_expect symbol fault).bind fun _ _ _ => h' v v' hv

end Next

/-! ## Parts of a path -/

section Parts

variable {swaps : List Token → List Token → Prop} {alike : Expr → Expr → Prop} {bound : Nat}
  {expr : Parse Expr} {s s' : State}

/-- A parser comes to expressions that are alike. -/
def Respects (swaps : List Token → List Token → Prop) (alike : Expr → Expr → Prop)
    (expr : Parse Expr) : Prop :=
  ∀ bound, Follows swaps bound (run expr) (run expr) alike

/-- Predicates are read in pairs, because no bracket is swapped for anything else. -/
theorem Respects.follows_predicates (h : Exchanges swaps alike) (he : Respects swaps alike expr) :
    Follows swaps bound (run (predicates expr)) (run (predicates expr))
      (List.Forall₂ alike) := by
  induction bound using Nat.strong_induction_on with
  | _ bound ih =>
    intro s s' hs hbound
    rw [run_predicates, run_predicates]
    obtain ⟨hskip, hskip'⟩ | ⟨t, t', hskip, hskip', ht, hlt⟩ := h.symbol_cases hs .leftBracket
    · rw [hskip, hskip']
      exact .of_ok .nil hs le_rfl
    · simp only [hskip, hskip']
      refine .behind ht hlt hbound fun b hb => ?_
      exact h.closed (he b) _ _ fun e e' hee' => (ih b hb).map fun es es' hes => .cons hee' hes

/-- A target is read from both lists, unless something is swapped next, and then no closing
parenthesis is. -/
theorem Exchanges.follows_instructionTarget (h : Exchanges swaps alike) (hs : Similar swaps s s')
    (name : String) :
    (∃ target t t', run (instructionTarget name) s = .ok (target, t) ∧
      run (instructionTarget name) s' = .ok (target, t') ∧ Similar swaps t t' ∧
      t.tokens.length ≤ s.tokens.length) ∨
    (∃ l l', swaps l l') ∧ run (instructionTarget name) s = .ok (none, s) ∧
      skip? .rightParen s = none := by
  rw [run_instructionTarget, run_instructionTarget]
  have hs' := hs
  obtain ⟨tokens, operators, finish⟩ := s
  obtain ⟨tokens', operators', finish'⟩ := s'
  obtain ⟨htokens, hoperators⟩ := hs
  cases htokens with
  | nil => exact .inl ⟨none, _, _, rfl, rfl, hs', le_rfl⟩
  | @cons token position position' rest rest' hrest =>
    cases token with
    | literal text =>
      dsimp only
      split
      · exact .inl ⟨some text, _, _, rfl, rfl, ⟨hrest, hoperators⟩, Nat.le_succ _⟩
      · exact .inl ⟨none, _, _, rfl, rfl, hs', le_rfl⟩
    | symbol | name | number | «variable» | function | nodeType | axis =>
      exact .inl ⟨none, _, _, rfl, rfl, hs', le_rfl⟩
  | swap hswap hrest =>
    obtain ⟨⟨name, position, more, rfl⟩, -⟩ := h.fronts hswap
    refine .inr ⟨⟨_, _, hswap⟩, rfl, skip?_eq_none ?_⟩
    rintro _ ⟨⟩
    exact Token.noConfusion

/-- What stands in the parentheses of a node type, and the closing one. -/
def testInside (name : String) : Run NodeTest := do
  let target ← run (instructionTarget name)
  let _ ← run (expect .rightParen .unclosedParenthesis)
  return nodeTypeTest name target

theorem Exchanges.follows_testInside (h : Exchanges swaps alike) (name : String) :
    Follows swaps bound (testInside name) (testInside name) Eq := by
  intro s s' hs hbound
  obtain ⟨target, t, t', ht, ht', hsimilar, hle⟩ | ⟨⟨l, l', hswap⟩, ht, hskip⟩ :=
    h.follows_instructionTarget hs name
  · have hclosing : Follows swaps bound
        (do let _ ← run (expect .rightParen .unclosedParenthesis)
            return nodeTypeTest name target)
        (do let _ ← run (expect .rightParen .unclosedParenthesis)
            return nodeTypeTest name target) Eq := (h.follows_expect _ _).map fun _ _ _ => rfl
    rw [testInside, run_bind_of_ok ht, run_bind_of_ok ht']
    exact (hclosing t t' hsimilar (hle.trans hbound)).mono hle
  · have hfail : testInside name s = s.fail .unclosedParenthesis := by
      rw [testInside, run_bind_of_ok ht]
      show (run (expect .rightParen .unclosedParenthesis) s >>= _) = _
      rw [run_expect, hskip]
      rfl
    rw [hfail]
    exact .of_swap hswap

/-- Nothing in a test can be swapped, so both runs read the same one. -/
theorem Exchanges.follows_nodeTest (h : Exchanges swaps alike) :
    Follows swaps bound (run nodeTest) (run nodeTest) Eq := by
  intro s s' hs hbound
  rw [run_nodeTest, run_nodeTest]
  obtain ⟨tokens, operators, finish⟩ := s
  obtain ⟨tokens', operators', finish'⟩ := s'
  obtain ⟨htokens, hoperators⟩ := hs
  cases htokens with
  | nil => exact .of_error rfl
  | @cons token position position' rest rest' hrest =>
    cases token with
    | name name =>
      dsimp only
      split
      · exact .of_ok rfl ⟨hrest, hoperators⟩ (Nat.le_succ _)
      · split
        · exact .of_error rfl
        · exact .of_ok rfl ⟨hrest, hoperators⟩ (Nat.le_succ _)
    | nodeType name =>
      have ht : Similar swaps ⟨rest, operators, finish⟩ ⟨rest', operators', finish'⟩ :=
        ⟨hrest, hoperators⟩
      dsimp only
      refine .behind ht (Nat.lt_succ_self _) hbound fun b _ => ?_
      exact (h.follows_expect _ _).bind fun _ _ _ => h.follows_testInside name
    | symbol | number | literal | «variable» | function | axis => exact .of_error rfl
  | swap hswap hrest =>
    obtain ⟨⟨name, position, more, rfl⟩, -⟩ := h.fronts hswap
    exact .of_swap hswap

theorem Exchanges.follows_stepAxis (h : Exchanges swaps alike) :
    Follows swaps bound (run stepAxis) (run stepAxis) Eq := by
  intro s s' hs hbound
  rw [run_stepAxis, run_stepAxis]
  have hs' := hs
  obtain ⟨tokens, operators, finish⟩ := s
  obtain ⟨tokens', operators', finish'⟩ := s'
  obtain ⟨htokens, hoperators⟩ := hs
  cases htokens with
  | nil => exact .of_ok rfl hs' le_rfl
  | @cons token position position' rest rest' hrest =>
    cases token with
    | symbol symbol =>
      cases symbol with
      | atSign => exact .of_ok rfl ⟨hrest, hoperators⟩ (Nat.le_succ _)
      | _ => exact .of_ok rfl hs' le_rfl
    | axis name =>
      dsimp only
      cases Axis.ofName? name with
      | none => exact .of_error rfl
      | some axis =>
        have ht : Similar swaps ⟨rest, operators, finish⟩ ⟨rest', operators', finish'⟩ :=
          ⟨hrest, hoperators⟩
        dsimp only
        refine .behind ht (Nat.lt_succ_self _) hbound fun b _ => ?_
        exact (h.follows_expect _ _).map fun _ _ _ => rfl
    | name | number | literal | «variable» | function | nodeType => exact .of_ok rfl hs' le_rfl
  | swap hswap hrest =>
    obtain ⟨⟨name, position, more, rfl⟩, token, position', more', rfl, htoken⟩ := h.fronts hswap
    obtain ⟨name', rfl⟩ | ⟨text, rfl⟩ := htoken <;> exact .of_ok rfl hs' le_rfl

/-- Both runs read steps that differ in their predicates only. -/
theorem Respects.follows_step (h : Exchanges swaps alike) (he : Respects swaps alike expr) :
    Follows swaps bound (run (step expr)) (run (step expr)) (Step.Alike alike) := by
  intro s s' hs hbound
  rw [run_step, run_step]
  obtain ⟨hdot, hdot'⟩ | ⟨t, t', hdot, hdot', ht, hlt⟩ := h.symbol_cases hs .dot
  · obtain ⟨hdots, hdots'⟩ | ⟨t, t', hdots, hdots', ht, hlt⟩ := h.symbol_cases hs .dotDot
    · simp only [hdot, hdot', hdots, hdots']
      refine h.follows_stepAxis.bind (fun axis _ haxis => ?_) s s' hs hbound
      refine h.follows_nodeTest.bind fun test _ htest => ?_
      subst haxis htest
      exact (he.follows_predicates h).map fun es es' hes => .mk axis test hes
    · simp only [hdot, hdot', hdots, hdots']
      exact .of_ok (.every .parent) ht hlt.le
  · simp only [hdot, hdot']
    exact .of_ok (.every .self) ht hlt.le

theorem Respects.follows_steps (h : Exchanges swaps alike) (he : Respects swaps alike expr) :
    Follows swaps bound (run (steps expr)) (run (steps expr))
      (List.Forall₂ (Step.Alike alike)) := by
  induction bound using Nat.strong_induction_on with
  | _ bound ih =>
    rw [run_steps]
    refine (he.follows_step h).bind fun first first' hfirst s s' hs hbound => ?_
    rw [stepsAfter, stepsAfter]
    obtain ⟨hslash, hslash'⟩ | ⟨t, t', hslash, hslash', ht, hlt⟩ := h.symbol_cases hs .slash
    · obtain ⟨hslashes, hslashes'⟩ | ⟨t, t', hslashes, hslashes', ht, hlt⟩ :=
        h.symbol_cases hs .doubleSlash
      · simp only [hslash, hslash', hslashes, hslashes']
        exact .of_ok (.cons hfirst .nil) hs le_rfl
      · simp only [hslash, hslash', hslashes, hslashes']
        exact .behind ht hlt hbound fun b hb => (ih b hb).map fun ss ss' hss =>
          .cons hfirst (.cons (.every _) hss)
    · simp only [hslash, hslash']
      exact .behind ht hlt hbound fun b hb => (ih b hb).map fun ss ss' hss => .cons hfirst hss

theorem Respects.follows_stepsBehind (h : Exchanges swaps alike) (he : Respects swaps alike expr) :
    Follows swaps bound (run (stepsBehind expr)) (run (stepsBehind expr))
      (List.Forall₂ (Step.Alike alike)) := by
  intro s s' hs hbound
  rw [run_stepsBehind, run_stepsBehind]
  obtain ⟨hslash, hslash'⟩ | ⟨t, t', hslash, hslash', ht, hlt⟩ := h.symbol_cases hs .slash
  · obtain ⟨hslashes, hslashes'⟩ | ⟨t, t', hslashes, hslashes', ht, hlt⟩ :=
      h.symbol_cases hs .doubleSlash
    · simp only [hslash, hslash', hslashes, hslashes']
      exact .of_ok .nil hs le_rfl
    · simp only [hslash, hslash', hslashes, hslashes']
      exact .behind ht hlt hbound fun b _ => (he.follows_steps h).map fun ss ss' hss =>
        .cons (.every _) hss
  · simp only [hslash, hslash']
    exact .behind ht hlt hbound fun b _ => he.follows_steps h

theorem Respects.follows_argumentList (h : Exchanges swaps alike) (he : Respects swaps alike expr) :
    Follows swaps bound (run (argumentList expr)) (run (argumentList expr))
      (List.Forall₂ alike) := by
  induction bound using Nat.strong_induction_on with
  | _ bound ih =>
    rw [run_argumentList]
    refine (he bound).bind fun first first' hfirst s s' hs hbound => ?_
    rw [argumentsAfter, argumentsAfter]
    obtain ⟨hcomma, hcomma'⟩ | ⟨t, t', hcomma, hcomma', ht, hlt⟩ := h.symbol_cases hs .comma
    · simp only [hcomma, hcomma']
      exact .of_ok (.cons hfirst .nil) hs le_rfl
    · simp only [hcomma, hcomma']
      exact .behind ht hlt hbound fun b hb => (ih b hb).map fun es es' hes => .cons hfirst hes

theorem Respects.follows_arguments (h : Exchanges swaps alike) (he : Respects swaps alike expr)
    (name : String) :
    Follows swaps bound (run (arguments expr name)) (run (arguments expr name))
      (List.Forall₂ alike) := by
  rw [run_arguments]
  refine (h.follows_expect _ _).bind fun _ _ _ s s' hs hbound => ?_
  rw [argumentsInside, argumentsInside]
  obtain ⟨hparen, hparen'⟩ | ⟨t, t', hparen, hparen', ht, hlt⟩ := h.symbol_cases hs .rightParen
  · simp only [hparen, hparen']
    exact h.closed (he.follows_argumentList h) _ _ (fun es es' hes => .pure hes) s s' hs hbound
  · simp only [hparen, hparen']
    exact .of_ok .nil ht hlt.le

end Parts

/-! ## Operands -/

section Operands

variable {swaps : List Token → List Token → Prop} {alike : Expr → Expr → Prop} {bound depth : Nat}
  {expr : Parse Expr} {s s' : State}

/-- A call looks at the number of its arguments, which is the same in both runs. -/
theorem follows_callOf (hc : Expr.Congruence alike) (function : Function) (name : String)
    (position position' : Nat) {es es' : List Expr} (hes : List.Forall₂ alike es es') :
    Follows swaps bound (callOf function name position es) (callOf function name position' es')
      alike := by
  unfold callOf
  rw [hes.length_eq]
  split
  · exact .pure (hc.call function hes)
  · exact fun _ _ _ _ => .of_error rfl

/-- Here an operand may have been swapped, and only here. -/
theorem Respects.primary (h : Exchanges swaps alike) (he : Respects swaps alike (parseOr depth)) :
    Respects swaps alike (primary (parseOr depth)) := by
  intro bound s s' hs hbound
  obtain ⟨tokens, operators, finish⟩ := s
  obtain ⟨tokens', operators', finish'⟩ := s'
  obtain ⟨htokens, hoperators⟩ := hs
  cases htokens with
  | nil =>
    rw [run_primary, run_primary]
    exact .of_error rfl
  | @cons token position position' rest rest' hrest =>
    have ht : Similar swaps ⟨rest, operators, finish⟩ ⟨rest', operators', finish'⟩ :=
      ⟨hrest, hoperators⟩
    rw [run_primary, run_primary]
    cases token with
    | «variable» name => exact .of_ok (h.congruence.anyVariable name _ _) ht (Nat.le_succ _)
    | literal text => exact .of_ok (h.congruence.literal text) ht (Nat.le_succ _)
    | number value => exact .of_ok (h.congruence.number value) ht (Nat.le_succ _)
    | symbol symbol =>
      cases symbol with
      | leftParen =>
        dsimp only
        refine .behind ht (Nat.lt_succ_self _) hbound fun b _ => ?_
        exact h.closed (he b) _ _ fun e e' hee' => .pure hee'
      | _ => exact .of_error rfl
    | function name =>
      dsimp only
      cases Function.ofName? name with
      | none => exact .of_error rfl
      | some function =>
        dsimp only
        refine .behind ht (Nat.lt_succ_self _) hbound fun b _ => ?_
        exact (he.follows_arguments h name).bind fun es es' hes =>
          follows_callOf h.congruence function name _ _ hes
    | name | nodeType | axis => exact .of_error rfl
  | @swap front front' rest rest' hswap hrest =>
    refine ⟨fun v t hrun => ?_, fun _ _ => .inl ⟨_, _, hswap⟩⟩
    obtain ⟨hsame, hallowed⟩ := hoperators
    obtain rfl : operators = operators' := hsame
    obtain ⟨rfl, v', hrun', hv⟩ :=
      h.reads hswap depth rest rest' operators finish finish' v t hallowed hrun
    refine ⟨?_, v', _, hrun', hv, hrest, rfl, hallowed⟩
    show rest.length ≤ (front ++ rest).length
    rw [List.length_append]
    exact Nat.le_add_left _ _

theorem alike_withFilter (hc : Expr.Congruence alike) {e e' : Expr} {es es' : List Expr}
    {ss ss' : List Step} (he : alike e e') (hes : List.Forall₂ alike es es')
    (hss : List.Forall₂ (Step.Alike alike) ss ss') :
    alike (withFilter e es ss) (withFilter e' es' ss') := by
  cases hes with
  | nil =>
    cases hss with
    | nil => exact he
    | cons hs hss => exact hc.filter he .nil (.cons hs hss)
  | cons hes₁ hes => exact hc.filter he (.cons hes₁ hes) hss

theorem Respects.filtered (h : Exchanges swaps alike) (he : Respects swaps alike (parseOr depth)) :
    Respects swaps alike (filtered (parseOr depth)) := by
  intro bound
  rw [run_filtered]
  exact (he.primary h bound).bind fun e e' hee' => (he.follows_predicates h).bind fun es es' hes =>
    (he.follows_stepsBehind h).map fun ss ss' hss => alike_withFilter h.congruence hee' hes hss

theorem Respects.follows_pathOf (h : Exchanges swaps alike) (he : Respects swaps alike expr)
    (absolute : Bool) :
    Follows swaps bound (pathOf expr absolute) (pathOf expr absolute) alike :=
  (he.follows_steps h).map fun _ _ hss => h.congruence.path absolute hss

/-- An operand or a step can begin with the next token of both lists or of none. -/
theorem Exchanges.atPrimary_atStep (h : Exchanges swaps alike) (hs : Similar swaps s s') :
    atPrimary s = atPrimary s' ∧ atStep s = atStep s' := by
  obtain ⟨tokens, operators, finish⟩ := s
  obtain ⟨tokens', operators', finish'⟩ := s'
  obtain ⟨htokens, -⟩ := hs
  cases htokens with
  | nil => exact ⟨rfl, rfl⟩
  | cons token =>
    cases token with
    | symbol symbol => cases symbol <;> exact ⟨rfl, rfl⟩
    | _ => exact ⟨rfl, rfl⟩
  | swap hswap hrest =>
    obtain ⟨⟨name, position, more, rfl⟩, token, position', more', rfl, htoken⟩ := h.fronts hswap
    obtain ⟨name', rfl⟩ | ⟨text, rfl⟩ := htoken <;> exact ⟨rfl, rfl⟩

theorem Respects.parsePath (h : Exchanges swaps alike) (he : Respects swaps alike (parseOr depth)) :
    Respects swaps alike (parsePath (parseOr depth)) := by
  intro bound s s' hs hbound
  rw [run_parsePath, run_parsePath, (h.atPrimary_atStep hs).1]
  split
  · exact he.filtered h bound s s' hs hbound
  · obtain ⟨hslash, hslash'⟩ | ⟨t, t', hslash, hslash', ht, hlt⟩ := h.symbol_cases hs .slash
    · obtain ⟨hslashes, hslashes'⟩ | ⟨t, t', hslashes, hslashes', ht, hlt⟩ :=
        h.symbol_cases hs .doubleSlash
      · simp only [hslash, hslash', hslashes, hslashes']
        exact he.follows_pathOf h false s s' hs hbound
      · simp only [hslash, hslash', hslashes, hslashes']
        exact .behind ht hlt hbound fun b _ => (he.follows_steps h).map fun ss ss' hss =>
          h.congruence.path true (.cons (.every _) hss)
    · simp only [hslash, hslash', (h.atPrimary_atStep ht).2]
      split
      · exact .behind ht hlt hbound fun b _ => he.follows_pathOf h true
      · exact .of_ok (h.congruence.path true .nil) ht hlt.le

end Operands

/-! ## Chains and whole expressions -/

section Whole

variable {swaps : List Token → List Token → Prop} {alike : Expr → Expr → Prop} {bound : Nat}
  {whole operand : Parse Expr} {join : Symbol → Option (Expr → Expr → Expr)}
  {goOn : Expr → Parse Expr} {s s' : State}

theorem follows_count : Follows swaps bound count count fun _ _ => True := by
  intro s s' hs _
  rw [count, count, countOperator, countOperator, ← hs.operators.1]
  split
  · exact .of_error rfl
  next hfew => exact .of_ok trivial ⟨hs.tokens, rfl, Nat.lt_of_not_le hfew⟩ le_rfl

/-- The next token joins operands in both lists or in none. -/
theorem Exchanges.next_cases (h : Exchanges swaps alike) (hs : Similar swaps s s')
    (join : Symbol → Option (Expr → Expr → Expr)) :
    (next? join s = none ∧ next? join s' = none) ∨
      ∃ found f t t', join found = some f ∧ next? join s = some (f, t) ∧
        next? join s' = some (f, t') ∧ Similar swaps t t' ∧ t.tokens.length < s.tokens.length := by
  obtain ⟨tokens, operators, finish⟩ := s
  obtain ⟨tokens', operators', finish'⟩ := s'
  obtain ⟨htokens, hoperators⟩ := hs
  cases htokens with
  | nil => exact .inl ⟨rfl, rfl⟩
  | cons token position position' hrest =>
    cases token with
    | symbol found =>
      unfold next?
      dsimp only
      cases hf : join found with
      | none => exact .inl ⟨rfl, rfl⟩
      | some f =>
        exact .inr ⟨found, f, _, _, hf, rfl, rfl, ⟨hrest, hoperators⟩, Nat.lt_succ_self _⟩
    | _ => exact .inl ⟨rfl, rfl⟩
  | swap hswap hrest =>
    obtain ⟨⟨name, position, more, rfl⟩, token, position', more', rfl, htoken⟩ := h.fronts hswap
    obtain ⟨name', rfl⟩ | ⟨text, rfl⟩ := htoken <;> exact .inl ⟨rfl, rfl⟩

/-- What a symbol makes of operands is alike if they are. -/
def JoinsAlike (alike : Expr → Expr → Prop) (join : Symbol → Option (Expr → Expr → Expr)) : Prop :=
  ∀ found f, join found = some f →
    ∀ l l' r r', alike l l' → alike r r' → alike (f l r) (f l' r')

theorem joinsAlike_joinLevel (hc : Expr.Congruence alike) (level : Symbol → Option BinaryOp) :
    JoinsAlike alike (joinLevel level) := by
  intro found f hf l l' r r' hl hr
  obtain ⟨op, -, rfl⟩ := Option.map_eq_some_iff.mp hf
  exact hc.binary op hl hr

theorem joinsAlike_joinUnion (hc : Expr.Congruence alike) : JoinsAlike alike joinUnion := by
  intro found f hf l l' r r' hl hr
  unfold joinUnion at hf
  split at hf
  · cases hf
    exact hc.union hl hr
  · cases hf

/-- What two loops have joined so far is alike, and so is what they make of one more operand. -/
theorem Chains.follows_goOn (hchain : Chains whole operand join goOn) (h : Exchanges swaps alike)
    (hjoin : JoinsAlike alike join) (ho : Respects swaps alike operand) {left left' : Expr}
    (hl : alike left left') :
    Follows swaps bound (run (goOn left)) (run (goOn left')) alike := by
  induction bound using Nat.strong_induction_on generalizing left left' with
  | _ bound ih =>
    intro s s' hs hbound
    rw [hchain.run_goOn, hchain.run_goOn]
    obtain ⟨hnext, hnext'⟩ | ⟨found, f, t, t', hf, hnext, hnext', ht, hlt⟩ :=
      h.next_cases hs join
    · simp only [hnext, hnext']
      exact .of_ok hl hs le_rfl
    · simp only [hnext, hnext']
      refine .behind ht hlt hbound fun b hb => follows_count.bind fun _ _ _ => ?_
      exact (ho b).bind fun right right' hr => ih b hb (hjoin found f hf _ _ _ _ hl hr)

theorem Respects.chains (h : Exchanges swaps alike) (ho : Respects swaps alike operand)
    (hchain : Chains whole operand join goOn) (hjoin : JoinsAlike alike join) :
    Respects swaps alike whole := by
  intro bound
  rw [hchain.run_whole]
  exact (ho bound).bind fun left left' hl => hchain.follows_goOn h hjoin ho hl

theorem Respects.parseLevels (h : Exchanges swaps alike) (ho : Respects swaps alike operand) :
    Respects swaps alike (parseLevels operand) := by
  have hlevel : ∀ {operand : Parse Expr} (level), Respects swaps alike operand →
      Respects swaps alike (chain level operand) :=
    fun level ho => ho.chains h (chains_chain level _) (joinsAlike_joinLevel h.congruence level)
  exact hlevel orLevel <| hlevel andLevel <| hlevel equalityLevel <| hlevel orderLevel <|
    hlevel sumLevel <| hlevel productLevel ho

/-- The whole parser respects what may be swapped, by induction on the nesting that is left. -/
theorem respects_parse (h : Exchanges swaps alike) (depth : Nat) :
    Respects swaps alike (parseOr depth) ∧ Respects swaps alike (parseUnary depth) := by
  induction depth with
  | zero =>
    constructor
    · intro bound s s' _ _
      rw [run, parseOr]
      exact .of_error rfl
    · intro bound s s' _ _
      rw [run, parseUnary]
      exact .of_error rfl
  | succ depth ih =>
    constructor
    · rw [parseOr]
      exact ih.2.parseLevels h
    · intro bound s s' hs hbound
      rw [run_parseUnary, run_parseUnary]
      obtain ⟨hminus, hminus'⟩ | ⟨t, t', hminus, hminus', ht, hlt⟩ := h.symbol_cases hs .minus
      · simp only [hminus, hminus']
        have hunions := (ih.1.parsePath h).chains h (chains_unions _)
          (joinsAlike_joinUnion h.congruence)
        exact hunions bound s s' hs hbound
      · simp only [hminus, hminus']
        exact .behind ht hlt hbound fun b _ => (ih.2 b).map fun e e' he =>
          h.congruence.negate he

/-- Nothing but what was read may be left. -/
theorem agrees_ended (h : Exchanges swaps alike) {r r' : Expr × State} (hr : alike r.1 r'.1)
    (hs : Similar swaps r.2 r'.2) :
    (∀ e, ended r = .ok e → ∃ e', ended r' = .ok e' ∧ alike e e') ∧
      ∀ e, ended r = .error e →
        (∃ l l', swaps l l') ∨ ∃ e', ended r' = .error e' ∧ e'.fault = e.fault := by
  obtain ⟨v, tokens, operators, finish⟩ := r
  obtain ⟨v', tokens', operators', finish'⟩ := r'
  obtain ⟨htokens, -⟩ := hs
  cases htokens with
  | nil =>
    refine ⟨?_, nofun⟩
    rintro _ ⟨⟩
    exact ⟨v', rfl, hr⟩
  | cons token position position' =>
    refine ⟨nofun, ?_⟩
    rintro _ ⟨⟩
    exact .inr ⟨_, rfl, rfl⟩
  | swap hswap =>
    obtain ⟨⟨name, position, more, rfl⟩, -⟩ := h.fronts hswap
    exact ⟨nofun, fun _ _ => .inl ⟨_, _, hswap⟩⟩

theorem Matched.eq_nil_iff {tokens tokens' : List Located} (ht : Matched swaps tokens tokens')
    (h : Exchanges swaps alike) :
    tokens = [] ↔ tokens' = [] := by
  cases ht with
  | nil => exact Iff.rfl
  | cons => simp
  | swap hswap =>
    obtain ⟨⟨name, position, more, rfl⟩, token, position', more', rfl, -⟩ := h.fronts hswap
    simp

end Whole

end Parser

open HtmlQuery.Parser in
/-- Lists of tokens that match come to expressions that are alike, or fail for the same reason if
nothing is swapped. -/
theorem Expr.ofTokens_congr {swaps : List Token → List Token → Prop}
    {alike : Expr → Expr → Prop} (h : Exchanges swaps alike) {tokens tokens' : List Located}
    (ht : Matched swaps tokens tokens') (finish finish' : Nat) :
    (∀ e, Expr.ofTokens tokens finish = .ok e →
      ∃ e', Expr.ofTokens tokens' finish' = .ok e' ∧ alike e e') ∧
    ∀ e, Expr.ofTokens tokens finish = .error e →
      (∃ l l', swaps l l') ∨
        ∃ e', Expr.ofTokens tokens' finish' = .error e' ∧ e'.fault = e.fault := by
  by_cases hnil : tokens = []
  · obtain rfl := hnil
    obtain rfl := (ht.eq_nil_iff h).mp rfl
    refine ⟨nofun, ?_⟩
    rintro _ ⟨⟩
    exact .inr ⟨_, rfl, rfl⟩
  · rw [ofTokens_eq hnil, ofTokens_eq fun hnil' => hnil ((ht.eq_nil_iff h).mpr hnil')]
    have hagrees := (respects_parse h maxDepth).1 tokens.length ⟨tokens, 0, finish⟩
      ⟨tokens', 0, finish'⟩ ⟨ht, rfl, Nat.zero_le _⟩ le_rfl
    cases hrun : run (parseOr maxDepth) ⟨tokens, 0, finish⟩ with
    | error e =>
      refine ⟨nofun, ?_⟩
      rintro _ ⟨⟩
      refine (hagrees.error e hrun).imp_right fun ⟨e', he', hfault⟩ => ⟨e', ?_, hfault⟩
      rw [he']
      rfl
    | ok r =>
      obtain ⟨-, v', t', hrun', hv, ht'⟩ := hagrees.ok r.1 r.2 hrun
      rw [hrun']
      exact agrees_ended h hv ht'

end HtmlQuery
