import HtmlQuery.Proofs.Query.Running

/-!
# What tokens are read as

`Reads x level tokens cost P` says that a parser, given these tokens with others behind them, reads
a value that satisfies `P` and leaves the others, provided that what comes next does not go on with
the value: it binds less than `level`.  `cost` is the number of operators among the tokens, which
the limit on a whole expression counts.

Readings are put together from single tokens (`Reads.cons`) one after the other (`Reads.bind`).
From these there is one rule for each way of the grammar to go on.  Chains group to the left, so
their rule adds an operand behind a chain that may go on (`Leads`).

The levels of the grammar have numbers, the looser the smaller, and `reader` is what reads an
expression of a level: 2 to 7 are the operators from `or` to the products, 8 is the minus sign, 9
the union, 10 a path, and 12 a primary operand.  What reads a level also reads the tighter ones
(`ReadsAt.loosen`).
-/

namespace HtmlQuery

theorem Axis.ofName?_name (axis : Axis) : ofName? axis.name = some axis := by
  cases axis <;> rfl

theorem Function.ofName?_spelling (function : Function) :
    ofName? function.spelling = some function := by
  cases function <;> rfl

namespace Parser

/-- How tightly a token binds that goes on with what stands before it.  What a step begins with goes
on with a slash. -/
def binding : Token → Nat
  | .symbol .comma => 1
  | .symbol .or => 2
  | .symbol .and => 3
  | .symbol .equal | .symbol .notEqual => 4
  | .symbol .less | .symbol .lessEqual | .symbol .greater | .symbol .greaterEqual => 5
  | .symbol .plus | .symbol .minus => 6
  | .symbol .multiply | .symbol .div | .symbol .mod => 7
  | .symbol .pipe => 9
  | .symbol .slash | .symbol .doubleSlash => 10
  | .symbol .leftBracket => 11
  | .symbol .dot | .symbol .dotDot | .symbol .atSign | .name _ | .nodeType _ | .axis _ => 11
  | _ => 0

/-- What comes next does not go on with an expression of some level. -/
def Stops (level : Nat) (rest : List Located) : Prop :=
  ∀ t ∈ rest.head?, binding t.token < level

theorem Stops.mono {k l : Nat} {rest : List Located} (h : Stops k rest) (hkl : k ≤ l) :
    Stops l rest :=
  fun t ht => Nat.lt_of_lt_of_le (h t ht) hkl

theorem Stops.nil (k : Nat) : Stops k [] := by
  rintro t ⟨⟩

theorem binding_lt (t : Token) : binding t < 12 := by
  unfold binding
  split <;> decide

theorem Stops.cons {k position : Nat} {t : Token} {rest : List Located} (h : binding t < k) :
    Stops k (⟨t, position⟩ :: rest) := by
  rintro _ ⟨⟩
  exact h

theorem map_token_eq_cons {located : List Located} {t : Token} {tokens : List Token}
    (h : located.map (·.token) = t :: tokens) :
    ∃ position rest, located = ⟨t, position⟩ :: rest ∧ rest.map (·.token) = tokens := by
  obtain ⟨⟨_, position⟩, rest, rfl, rfl, hrest⟩ := List.map_eq_cons_iff.mp h
  exact ⟨position, rest, rfl, hrest⟩

/-- These tokens may come behind an expression of level `k`, with something behind them that stops
at `l`. -/
inductive Allows (k l : Nat) : List Token → Prop where
  | nil : l ≤ k → Allows k l []
  | cons {t : Token} {tokens : List Token} : binding t < k → Allows k l (t :: tokens)

theorem Stops.append {k l : Nat} {tokens : List Token} {located rest : List Located}
    (hr : Stops l rest) (ht : located.map (·.token) = tokens) (h : Allows k l tokens) :
    Stops k (located ++ rest) := by
  cases h with
  | nil hl =>
    rw [List.map_eq_nil_iff] at ht
    subst ht
    exact hr.mono hl
  | cons ht' =>
    obtain ⟨position, located, rfl, -⟩ := map_token_eq_cons ht
    exact .cons ht'

theorem allows_any {l : Nat} (tokens : List Token) (hl : l ≤ 12) : Allows 12 l tokens := by
  cases tokens with
  | nil => exact .nil hl
  | cons t _ => exact .cons (binding_lt t)

/-- A symbol that would go on does not come next. -/
theorem Stops.skip?_eq_none {k operators finish : Nat} {rest : List Located} {symbol : Symbol}
    (h : Stops k rest) (hs : k ≤ binding (.symbol symbol)) :
    skip? symbol ⟨rest, operators, finish⟩ = none := by
  refine Parser.skip?_eq_none fun t ht he => ?_
  have := h t ht
  rw [he] at this
  omega

/-! ## What an expression begins with -/

/-- Whether a step can begin with a token. -/
def opensStep : Token → Bool
  | .symbol .dot | .symbol .dotDot | .symbol .atSign | .name _ | .nodeType _ | .axis _ => true
  | _ => false

theorem binding_of_opensStep {t : Token} (h : opensStep t = true) : binding t = 11 := by
  unfold opensStep at h
  split at h
  all_goals first | rfl | cases h

/-- Whether a primary operand can begin with a token. -/
def opensPrimary : Token → Bool
  | .variable _ | .symbol .leftParen | .literal _ | .number _ | .function _ => true
  | _ => false

/-- Whether a path can begin with a token. -/
def opensPath : Token → Bool
  | .symbol .slash | .symbol .doubleSlash => true
  | t => opensStep t || opensPrimary t

/-- Whether an expression can begin with a token. -/
def opens : Token → Bool
  | .symbol .minus => true
  | t => opensPath t

/-- What a parser reads begins with a token of some kind. -/
def Opens {α : Type} (p : Token → Bool) (x : Run α) : Prop :=
  ∀ s r, x s = .ok r → ∃ t rest, s.tokens = t :: rest ∧ p t.token = true

section Opening

variable {α β : Type} {p q : Token → Bool} {x : Run α} {f : α → Run β} {expr : Parse Expr}

theorem Opens.bind (h : Opens p x) : Opens p (x >>= f) := by
  intro s r hr
  obtain ⟨r', hr', -⟩ := run_bind_eq_ok.mp hr
  exact h s r' hr'

theorem Opens.imp (h : Opens p x) (hpq : ∀ t, p t = true → q t = true) : Opens q x := by
  intro s r hr
  obtain ⟨t, rest, hs, ht⟩ := h s r hr
  exact ⟨t, rest, hs, hpq t.token ht⟩

/-- What is read begins with no other symbol. -/
theorem Opens.skip?_eq_none {s : State} {r : α × State} {symbol : Symbol} (h : Opens p x)
    (hr : x s = .ok r) (hp : p (.symbol symbol) = false) : skip? symbol s = none := by
  obtain ⟨t, rest, hs, ht⟩ := h s r hr
  refine Parser.skip?_eq_none ?_
  rw [hs]
  rintro _ ⟨⟩ he
  rw [he, hp] at ht
  cases ht

theorem atStep_cons (t : Located) (rest : List Located) (operators finish : Nat) :
    atStep ⟨t :: rest, operators, finish⟩ = opensStep t.token := by
  obtain ⟨token, position⟩ := t
  cases token with
  | symbol symbol => cases symbol <;> rfl
  | _ => rfl

theorem atPrimary_cons (t : Located) (rest : List Located) (operators finish : Nat) :
    atPrimary ⟨t :: rest, operators, finish⟩ = opensPrimary t.token := by
  obtain ⟨token, position⟩ := t
  cases token with
  | symbol symbol => cases symbol <;> rfl
  | _ => rfl

theorem not_opensPrimary_of_opensStep {t : Token} (h : opensStep t = true) :
    opensPrimary t = false := by
  cases t with
  | symbol symbol => cases symbol <;> first | rfl | cases h
  | _ => first | rfl | cases h

/-- Behind a slash that stands alone no step begins. -/
theorem Stops.not_atStep {operators finish : Nat} {rest : List Located} (h : Stops 10 rest) :
    ¬ atStep ⟨rest, operators, finish⟩ = true := by
  cases rest with
  | nil => exact Bool.false_ne_true
  | cons t rest =>
    rw [atStep_cons]
    intro ht
    have := h t rfl
    rw [binding_of_opensStep ht] at this
    omega

theorem opens_step : Opens opensStep (run (step expr)) := by
  rintro ⟨tokens, operators, finish⟩ r h
  match tokens with
  | [] => cases h
  | ⟨.symbol symbol, _⟩ :: rest =>
    refine ⟨_, rest, rfl, ?_⟩
    cases symbol <;> first | rfl | cases h
  | ⟨.name _, _⟩ :: rest | ⟨.nodeType _, _⟩ :: rest | ⟨.axis _, _⟩ :: rest =>
    exact ⟨_, rest, rfl, rfl⟩
  | ⟨.number _, _⟩ :: _ | ⟨.literal _, _⟩ :: _ | ⟨.variable _, _⟩ :: _ | ⟨.function _, _⟩ :: _ =>
    cases h

theorem opens_steps : Opens opensStep (run (steps expr)) := by
  rw [run_steps]
  exact opens_step.bind

theorem opens_primary : Opens opensPrimary (run (primary expr)) := by
  rintro ⟨tokens, operators, finish⟩ r h
  match tokens with
  | [] => cases h
  | ⟨.symbol symbol, _⟩ :: rest =>
    refine ⟨_, rest, rfl, ?_⟩
    cases symbol <;> first | rfl | cases h
  | ⟨.number _, _⟩ :: rest | ⟨.literal _, _⟩ :: rest | ⟨.variable _, _⟩ :: rest
  | ⟨.function _, _⟩ :: rest =>
    exact ⟨_, rest, rfl, rfl⟩
  | ⟨.name _, _⟩ :: rest | ⟨.nodeType _, _⟩ :: rest | ⟨.axis _, _⟩ :: rest => cases h

theorem opensPath_of_opensStep {t : Token} (h : opensStep t = true) : opensPath t = true := by
  unfold opensPath
  split <;> simp [h]

theorem opensPath_of_opensPrimary {t : Token} (h : opensPrimary t = true) : opensPath t = true := by
  unfold opensPath
  split <;> simp [h]

theorem opens_of_opensPath {t : Token} (h : opensPath t = true) : opens t = true := by
  unfold opens
  split
  · rfl
  · exact h

theorem opens_parsePath : Opens opensPath (run (parsePath expr)) := by
  intro s r h
  rw [run_parsePath] at h
  split at h
  next hprimary =>
    obtain ⟨_ | ⟨t, rest⟩, operators, finish⟩ := s
    · cases hprimary
    · rw [atPrimary_cons] at hprimary
      exact ⟨t, rest, rfl, opensPath_of_opensPrimary hprimary⟩
  next =>
    split at h
    next t hslash =>
      obtain ⟨position, rest, hs, -⟩ := skip?_eq_some_iff.mp hslash
      exact ⟨_, rest, hs, rfl⟩
    next t hslashes =>
      obtain ⟨position, rest, hs, -⟩ := skip?_eq_some_iff.mp hslashes
      exact ⟨_, rest, hs, rfl⟩
    next =>
      have hsteps : Opens opensStep (pathOf expr false) := opens_steps.bind
      exact hsteps.imp (fun _ => opensPath_of_opensStep) s r h

/-- A chain begins like its first operand. -/
theorem Opens.chains {whole operand : Parse Expr} {join : Symbol → Option (Expr → Expr → Expr)}
    {goOn : Expr → Parse Expr} (h : Opens p (run operand))
    (hc : Chains whole operand join goOn) : Opens p (run whole) := by
  rw [hc.run_whole]
  exact h.bind

theorem opens_parseUnary (depth : Nat) : Opens opens (run (parseUnary depth)) := by
  intro s r h
  cases depth with
  | zero =>
    rw [run, parseUnary] at h
    cases h
  | succ depth =>
    rw [run_parseUnary] at h
    split at h
    next t hminus =>
      obtain ⟨position, rest, hs, -⟩ := skip?_eq_some_iff.mp hminus
      exact ⟨_, rest, hs, rfl⟩
    next =>
      have hpath : Opens opens (run (unions (parsePath (parseOr depth)))) :=
        (opens_parsePath.chains (chains_unions _)).imp fun _ => opens_of_opensPath
      exact hpath s r h

theorem Opens.parseLevels {operand : Parse Expr} (h : Opens p (run operand)) :
    Opens p (run (parseLevels operand)) :=
  (((((h.chains (chains_chain _ _)).chains (chains_chain _ _)).chains (chains_chain _ _)).chains
    (chains_chain _ _)).chains (chains_chain _ _)).chains (chains_chain _ _)

theorem opens_parseOr (depth : Nat) : Opens opens (run (parseOr depth)) := by
  cases depth with
  | zero =>
    intro s r h
    rw [run, parseOr] at h
    cases h
  | succ depth =>
    rw [parseOr]
    exact (opens_parseUnary depth).parseLevels

/-- A whole expression takes two nestings. -/
theorem two_le_of_run_parseOr {depth : Nat} {s : State} {r : Expr × State}
    (h : run (parseOr depth) s = .ok r) : 2 ≤ depth := by
  match depth with
  | 0 =>
    rw [run, parseOr] at h
    cases h
  | 1 =>
    have hnothing : Opens (fun _ => false) (run (parseUnary 0)) := by
      intro s r h
      rw [run, parseUnary] at h
      cases h
    rw [parseOr] at h
    obtain ⟨_, _, -, hfalse⟩ := hnothing.parseLevels s r h
    cases hfalse
  | _ + 2 => exact Nat.le_add_left _ _

end Opening

/-! ## Readings -/

/-- Tokens are read as a value of some kind, whatever comes behind them that stops there. -/
def Reads {α : Type} (x : Run α) (level : Nat) (tokens : List Token) (cost : Nat) (P : α → Prop) :
    Prop :=
  ∀ (located rest : List Located) (operators finish : Nat),
    located.map (·.token) = tokens → Stops level rest → operators + cost ≤ maxOperators →
      ∃ v, P v ∧
        x ⟨located ++ rest, operators, finish⟩ = .ok (v, ⟨rest, operators + cost, finish⟩)

section Readings

variable {α β : Type} {x y : Run α} {f : α → Run β} {k l cost cost' : Nat}
  {tokens tokens' : List Token} {P P' : α → Prop} {Q : β → Prop}

theorem Reads.mono (h : Reads x k tokens cost P) (hlk : l ≤ k) : Reads x l tokens cost P :=
  fun located rest operators finish ht hr hc =>
    h located rest operators finish ht (hr.mono hlk) hc

theorem Reads.imp (h : Reads x k tokens cost P) (hP : ∀ {v}, P v → P' v) :
    Reads x k tokens cost P' := by
  intro located rest operators finish ht hr hc
  obtain ⟨v, hv, hrun⟩ := h located rest operators finish ht hr hc
  exact ⟨v, hP hv, hrun⟩

/-- Nothing is read where what comes next does not go on. -/
theorem Reads.nil {v : α} (hv : P v)
    (hx : ∀ rest operators finish, Stops k rest →
      x ⟨rest, operators, finish⟩ = .ok (v, ⟨rest, operators, finish⟩)) :
    Reads x k [] 0 P := by
  intro located rest operators finish ht hr _
  rw [List.map_eq_nil_iff] at ht
  subst ht
  exact ⟨v, hv, hx rest operators finish hr⟩

theorem Reads.pure {v : α} (hv : P v) : Reads (pure v) k [] 0 P :=
  .nil hv fun _ _ _ _ => rfl

/-- One token, and what is read behind it. -/
theorem Reads.cons {t : Token} {y : Nat → Run α}
    (hx : ∀ position rest operators finish, x ⟨⟨t, position⟩ :: rest, operators, finish⟩ =
      y position ⟨rest, operators, finish⟩)
    (h : ∀ position, Reads (y position) k tokens cost P) : Reads x k (t :: tokens) cost P := by
  intro located rest operators finish ht hr hc
  obtain ⟨position, located, rfl, hlocated⟩ := map_token_eq_cons ht
  obtain ⟨v, hv, hrun⟩ := h position located rest operators finish hlocated hr hc
  exact ⟨v, hv, (hx position (located ++ rest) operators finish).trans hrun⟩

/-- What looks at a token and leaves it, and what is read then. -/
theorem Reads.peek {t : Token} {a : α}
    (hx : ∀ position rest operators finish, x ⟨⟨t, position⟩ :: rest, operators, finish⟩ =
      .ok (a, ⟨⟨t, position⟩ :: rest, operators, finish⟩))
    (h : Reads (f a) k (t :: tokens) cost Q) : Reads (x >>= f) k (t :: tokens) cost Q := by
  intro located rest operators finish ht hr hc
  obtain ⟨v, hv, hrun⟩ := h located rest operators finish ht hr hc
  obtain ⟨position, located, rfl, -⟩ := map_token_eq_cons ht
  exact ⟨v, hv, (run_bind_of_ok (hx position (located ++ rest) operators finish)).trans hrun⟩

/-- One reading after another one.  What the second one begins with does not go on with the first
one. -/
theorem Reads.bind (h : Reads x k tokens cost P)
    (h' : ∀ {a}, P a → Reads (f a) l tokens' cost' Q) (hnext : Allows k l tokens') :
    Reads (x >>= f) l (tokens ++ tokens') (cost + cost') Q := by
  intro located rest operators finish ht hr hc
  obtain ⟨before, behind, rfl, hbefore, hbehind⟩ := List.map_eq_append_iff.mp ht
  obtain ⟨a, ha, hrun⟩ := h before (behind ++ rest) operators finish hbefore
    (hr.append hbehind hnext) (by omega)
  obtain ⟨b, hb, hrun'⟩ := h' ha behind rest (operators + cost) finish hbehind hr (by omega)
  refine ⟨b, hb, ?_⟩
  rw [List.append_assoc, run_bind_of_ok hrun, ← Nat.add_assoc]
  exact hrun'

theorem Reads.map {g : α → β} (h : Reads x k tokens cost P) (hQ : ∀ {a}, P a → Q (g a)) :
    Reads (x >>= fun a => Pure.pure (g a)) k tokens cost Q := by
  have h' : Reads (x >>= fun a => Pure.pure (g a)) k (tokens ++ []) (cost + 0) Q :=
    h.bind (fun ha => .pure (hQ ha)) (.nil le_rfl)
  rwa [List.append_nil] at h'

/-- One reading after another one that gives a known value. -/
theorem Reads.andThen {a : α} (h : Reads x k tokens 0 (· = a)) (hnext : Allows k l tokens')
    (h' : Reads (f a) l tokens' cost' Q) : Reads (x >>= f) l (tokens ++ tokens') cost' Q := by
  have hread : Reads (x >>= f) l (tokens ++ tokens') (0 + cost') Q := by
    refine h.bind ?_ hnext
    rintro _ rfl
    exact h'
  rwa [Nat.zero_add] at hread

/-- What is read is what another parser reads that goes on in the same way where it succeeds. -/
theorem Reads.congr (h : Reads y k tokens cost P) (hxy : ∀ s r, y s = .ok r → x s = .ok r) :
    Reads x k tokens cost P := by
  intro located rest operators finish ht hr hc
  obtain ⟨v, hv, hrun⟩ := h located rest operators finish ht hr hc
  exact ⟨v, hv, hxy _ _ hrun⟩

end Readings

/-! ## Chains -/

/-- A chain whose symbols all bind as tightly as this. -/
structure ChainsAt (k : Nat) (whole operand : Parse Expr)
    (join : Symbol → Option (Expr → Expr → Expr)) (goOn : Expr → Parse Expr) : Prop
    extends Chains whole operand join goOn where
  /-- The symbols that join operands bind so. -/
  binds : ∀ symbol, (join symbol).isSome → binding (.symbol symbol) = k

/-- The beginning of a chain that may go on: behind these tokens it has a left operand of some
kind. -/
def Leads (whole : Parse Expr) (goOn : Expr → Parse Expr) (k : Nat) (tokens : List Token)
    (cost : Nat) (P : Expr → Prop) : Prop :=
  ∀ (located rest : List Located) (operators finish : Nat),
    located.map (·.token) = tokens → Stops (k + 1) rest → operators + cost ≤ maxOperators →
      ∃ left, P left ∧
        run whole ⟨located ++ rest, operators, finish⟩ =
          run (goOn left) ⟨rest, operators + cost, finish⟩

section Chains

variable {k cost cost' : Nat} {whole operand : Parse Expr}
  {join : Symbol → Option (Expr → Expr → Expr)} {goOn : Expr → Parse Expr}
  {tokens tokens' : List Token} {P Q R : Expr → Prop}

theorem ChainsAt.run_goOn_of_stops {left : Expr} {rest : List Located} {operators finish : Nat}
    (hc : ChainsAt k whole operand join goOn) (h : Stops k rest) :
    run (goOn left) ⟨rest, operators, finish⟩ = .ok (left, ⟨rest, operators, finish⟩) := by
  have hnone : next? join ⟨rest, operators, finish⟩ = none := by
    match rest with
    | [] => rfl
    | ⟨.symbol found, _⟩ :: _ =>
      have hjoin : join found = none := by
        rw [← Option.not_isSome_iff_eq_none]
        intro hsome
        have := h _ rfl
        rw [hc.binds found hsome] at this
        omega
      show (join found).map _ = none
      rw [hjoin]
      rfl
    | ⟨.number _, _⟩ :: _ | ⟨.literal _, _⟩ :: _ | ⟨.name _, _⟩ :: _ | ⟨.variable _, _⟩ :: _
    | ⟨.function _, _⟩ :: _ | ⟨.nodeType _, _⟩ :: _ | ⟨.axis _, _⟩ :: _ => rfl
  rw [hc.run_goOn, hnone]

theorem Chains.run_goOn_cons {left : Expr} {found : Symbol} {f : Expr → Expr → Expr}
    {position operators finish : Nat} {behind : List Located}
    (hc : Chains whole operand join goOn) (hf : join found = some f)
    (hcount : operators < maxOperators) :
    run (goOn left) ⟨⟨.symbol found, position⟩ :: behind, operators, finish⟩ =
      (run operand >>= fun right => run (goOn (f left right)))
        ⟨behind, operators + 1, finish⟩ := by
  have hnext : next? join ⟨⟨.symbol found, position⟩ :: behind, operators, finish⟩ =
      some (f, ⟨behind, operators, finish⟩) := by
    show (join found).map _ = _
    rw [hf]
    rfl
  have hcounted :
      count ⟨behind, operators, finish⟩ = .ok ((), ⟨behind, operators + 1, finish⟩) := by
    rw [count, countOperator, if_neg (Nat.not_le.mpr hcount)]
    rfl
  rw [hc.run_goOn, hnext]
  exact run_bind_of_ok hcounted

/-- An operand may be the beginning of a chain. -/
theorem Reads.leads (h : Reads (run operand) (k + 1) tokens cost P)
    (hc : Chains whole operand join goOn) : Leads whole goOn k tokens cost P := by
  intro located rest operators finish ht hr hcost
  obtain ⟨left, hleft, hrun⟩ := h located rest operators finish ht hr hcost
  refine ⟨left, hleft, ?_⟩
  rw [hc.run_whole]
  exact run_bind_of_ok hrun

/-- An operator and its right operand behind a chain. -/
theorem Leads.snoc {found : Symbol} {f : Expr → Expr → Expr} (h : Leads whole goOn k tokens cost P)
    (hc : ChainsAt k whole operand join goOn) (hf : join found = some f)
    (h' : Reads (run operand) (k + 1) tokens' cost' Q) (hR : ∀ {a b}, P a → Q b → R (f a b)) :
    Leads whole goOn k (tokens ++ .symbol found :: tokens') (cost + 1 + cost') R := by
  intro located rest operators finish ht hr hcost
  obtain ⟨before, behind, rfl, hbefore, hbehind⟩ := List.map_eq_append_iff.mp ht
  obtain ⟨position, after, rfl, hafter⟩ := map_token_eq_cons hbehind
  have hbinds : binding (.symbol found) = k := hc.binds found (by rw [hf]; rfl)
  obtain ⟨left, hleft, hrun⟩ := h before (⟨.symbol found, position⟩ :: (after ++ rest)) operators
    finish hbefore (.cons (by omega)) (by omega)
  obtain ⟨right, hright, hrun'⟩ := h' after rest (operators + cost + 1) finish hafter hr (by omega)
  refine ⟨f left right, hR hleft hright, ?_⟩
  have htotal : operators + (cost + 1 + cost') = operators + cost + 1 + cost' := by omega
  rw [List.append_assoc, List.cons_append, hrun, hc.run_goOn_cons hf (by omega),
    run_bind_of_ok hrun', htotal]

/-- A chain that does not go on. -/
theorem Leads.reads (h : Leads whole goOn k tokens cost P)
    (hc : ChainsAt k whole operand join goOn) : Reads (run whole) k tokens cost P := by
  intro located rest operators finish ht hr hcost
  obtain ⟨left, hleft, hrun⟩ := h located rest operators finish ht (hr.mono (Nat.le_succ k)) hcost
  exact ⟨left, hleft, hrun.trans (hc.run_goOn_of_stops hr)⟩

end Chains

/-! ## Levels -/

/-- The operators of one level bind equally. -/
theorem chainsAt_chain {k : Nat} {level : Symbol → Option BinaryOp} (operand : Parse Expr)
    (h : ∀ symbol, (level symbol).isSome → binding (.symbol symbol) = k) :
    ChainsAt k (chain level operand) operand (joinLevel level) (chainFrom level operand) where
  toChains := chains_chain level operand
  binds symbol hsome := h symbol (by rwa [joinLevel, Option.isSome_map] at hsome)

theorem chainsAt_unions (operand : Parse Expr) :
    ChainsAt 9 (unions operand) operand joinUnion (unionFrom operand) where
  toChains := chains_unions operand
  binds symbol hsome := by
    rw [joinUnion] at hsome
    split at hsome
    next h => rw [h, binding]
    next => cases hsome

/-- The levels of operators, the loosest first. -/
def levels : List (Symbol → Option BinaryOp) :=
  [orLevel, andLevel, equalityLevel, orderLevel, sumLevel, productLevel]

/-- The operators of a level. -/
def operatorsAt (level : Nat) : Symbol → Option BinaryOp :=
  levels.getD (level - 2) fun _ => none

/-- What reads an expression of a level, `depth` nestings being left for what it encloses. -/
def reader (depth level : Nat) : Parse Expr :=
  if level < 9 then (levels.drop (level - 2)).foldr chain (parseUnary (depth + 1))
  else if level = 9 then unions (parsePath (parseOr depth))
  else if level = 10 then parsePath (parseOr depth)
  else primary (parseOr depth)

/-- What the symbols of a level make of their operands. -/
def joinAt (level : Nat) : Symbol → Option (Expr → Expr → Expr) :=
  if level = 9 then joinUnion else joinLevel (operatorsAt level)

/-- What goes on with a chain of a level. -/
def goOnAt (depth level : Nat) : Expr → Parse Expr :=
  if level = 9 then unionFrom (parsePath (parseOr depth))
  else chainFrom (operatorsAt level) (reader depth (level + 1))

/-- Whether a level is one of chains. -/
def Chained (level : Nat) : Prop :=
  2 ≤ level ∧ level ≤ 7 ∨ level = 9

instance (level : Nat) : Decidable (Chained level) :=
  inferInstanceAs (Decidable (_ ∨ _))

theorem chainsAt_reader {k : Nat} (depth : Nat) (h : Chained k) :
    ChainsAt k (reader depth k) (reader depth (k + 1)) (joinAt k) (goOnAt depth k) := by
  rcases h with ⟨hl, hu⟩ | rfl
  · have hbinds : ∀ symbol, (operatorsAt k symbol).isSome → binding (.symbol symbol) = k := by
      intro symbol hsome
      interval_cases k <;> cases symbol <;> first | rfl | cases hsome
    interval_cases k <;> exact chainsAt_chain _ hbinds
  · exact chainsAt_unions _

/-- Tokens are read as an expression of a level. -/
def ReadsAt (depth level : Nat) : List Token → Nat → (Expr → Prop) → Prop :=
  Reads (run (reader depth level)) level

/-! ## Parts of a path -/

section Parts

variable {expr : Parse Expr} {tokens tokens' : List Token} {cost cost' : Nat}

theorem reads_expect (symbol : Symbol) (fault : Fault) :
    Reads (run (expect symbol fault)) 12 [.symbol symbol] 0 (· = ()) := by
  refine .cons (y := fun _ => pure ()) (fun position rest operators finish => ?_)
    fun _ => .pure rfl
  rw [run_expect, skip?_cons_self]
  rfl

/-- A reading behind an expected symbol. -/
theorem Reads.behind {α : Type} {x : Run α} {l : Nat} {P : α → Prop} (h : Reads x l tokens cost P)
    (symbol : Symbol) (fault : Fault) (hl : l ≤ 12) :
    Reads (do let _ ← run (expect symbol fault); x) l (.symbol symbol :: tokens) cost P := by
  refine (reads_expect symbol fault).andThen (f := fun _ => x) (allows_any tokens hl) h

/-- A reading with a closing symbol behind it. -/
theorem Reads.closed {α β : Type} {x : Run α} {f : α → Run β} {k l : Nat} {P : α → Prop}
    {Q : β → Prop} (h : Reads x k tokens cost P) (symbol : Symbol) (fault : Fault)
    (hs : binding (.symbol symbol) < k) (hl : l ≤ 12)
    (h' : ∀ {a}, P a → Reads (f a) l tokens' cost' Q) :
    Reads (do let a ← x; let _ ← run (expect symbol fault); f a) l
      (tokens ++ .symbol symbol :: tokens') (cost + cost') Q := by
  have hclose : ∀ {a}, P a → Reads (do let _ ← run (expect symbol fault); f a) l
      (.symbol symbol :: tokens') cost' Q := by
    intro a ha
    exact (h' ha).behind symbol fault hl
  exact h.bind hclose (.cons hs)

theorem reads_predicates_nil : Reads (run (predicates expr)) 11 [] 0 (· = []) := by
  refine .nil rfl fun rest operators finish hr => ?_
  rw [run_predicates, hr.skip?_eq_none (by decide)]

theorem Reads.predicates_cons {P : Expr → Prop} {Q R : List Expr → Prop}
    (h : Reads (run expr) 2 tokens cost P) (h' : Reads (run (predicates expr)) 11 tokens' cost' Q)
    (hR : ∀ {e es}, P e → Q es → R (e :: es)) :
    Reads (run (predicates expr)) 11
      (.symbol .leftBracket :: (tokens ++ .symbol .rightBracket :: tokens')) (cost + cost') R := by
  refine .cons (fun position rest operators finish => ?_) fun _ =>
    h.closed .rightBracket .unclosedPredicate (by decide) (by decide) fun he => h'.map (hR he)
  rw [run_predicates, skip?_cons_self]

/-! ### Node tests -/

theorem reads_nodeTest_any : Reads (run nodeTest) 12 [.name "*"] 0 (· = .any) :=
  .cons (fun _ _ _ _ => rfl) fun _ => .pure rfl

theorem reads_nodeTest_name {name : String} (hstar : name ≠ "*") (hcolon : ':' ∉ name.toList) :
    Reads (run nodeTest) 12 [.name name] 0 (· = .name name) := by
  refine .cons (fun position rest operators finish => ?_) fun _ => .pure rfl
  rw [run_nodeTest]
  simp [hstar, hcolon, pure, StateT.pure, Except.pure]

/-- The test of a node type. -/
theorem reads_nodeTest_type (name : String) :
    Reads (run nodeTest) 12 [.nodeType name, .symbol .leftParen, .symbol .rightParen] 0
      (· = nodeTypeTest name none) := by
  have hclose : Reads (do
      let target ← run (instructionTarget name)
      let _ ← run (expect .rightParen .unclosedParenthesis)
      return nodeTypeTest name target : Run NodeTest) 12 [.symbol .rightParen] 0
        (· = nodeTypeTest name none) :=
    .peek (fun _ _ _ _ => rfl) ((reads_expect _ _).map fun _ => rfl)
  refine .cons (fun position rest operators finish => ?_) fun _ =>
    hclose.behind .leftParen (.missingParenthesis name) le_rfl
  rw [run_nodeTest]

/-- The test for processing instructions with a target. -/
theorem reads_nodeTest_target (target : String) :
    Reads (run nodeTest) 12
      [.nodeType "processing-instruction", .symbol .leftParen, .literal target, .symbol .rightParen]
      0 (· = .instruction (some target)) := by
  have htarget : Reads (run (instructionTarget "processing-instruction")) 12 [.literal target] 0
      (· = some target) :=
    .cons (fun _ _ _ _ => rfl) fun _ => .pure rfl
  have hclose : Reads (do
      let target ← run (instructionTarget "processing-instruction")
      let _ ← run (expect .rightParen .unclosedParenthesis)
      return nodeTypeTest "processing-instruction" target : Run NodeTest) 12
        [.literal target, .symbol .rightParen] 0 (· = .instruction (some target)) :=
    htarget.andThen (allows_any _ le_rfl) ((reads_expect _ _).map fun _ => rfl)
  refine .cons (fun position rest operators finish => ?_) fun _ =>
    hclose.behind .leftParen (.missingParenthesis "processing-instruction") le_rfl
  rw [run_nodeTest]

/-! ### Steps -/

/-- The step to the current node. -/
theorem reads_step_dot : Reads (run (step expr)) 11 [.symbol .dot] 0 (· = .every .self) :=
  .cons (fun _ _ _ _ => rfl) fun _ => .pure rfl

/-- What follows an axis. -/
def afterAxis (expr : Parse Expr) (axis : Axis) : Run Step := do
  let test ← run nodeTest
  let es ← run (predicates expr)
  return .mk axis test es

/-- A step that is neither a point nor two. -/
theorem run_step_of_axis {s : State} {r : Step × State}
    (h : (run stepAxis >>= afterAxis expr) s = .ok r) : run (step expr) s = .ok r := by
  have hnone : ∀ symbol, symbol = .dot ∨ symbol = .dotDot → skip? symbol s = none := by
    intro symbol hsymbol
    rw [Option.eq_none_iff_forall_ne_some]
    intro t ht
    obtain ⟨position, rest, hs, -⟩ := skip?_eq_some_iff.mp ht
    obtain ⟨tokens, operators, finish⟩ := s
    obtain rfl : tokens = _ := hs
    rcases hsymbol with rfl | rfl <;> cases h
  rw [run_step, hnone .dot (.inl rfl), hnone .dotDot (.inr rfl)]
  exact h

section Step

variable {P : List Expr → Prop} {R : Step → Prop} {axis : Axis} {test : NodeTest}
  {front : List Token}

theorem Reads.afterAxis (ht : Reads (run nodeTest) 12 front 0 (· = test))
    (h : Reads (run (predicates expr)) 11 tokens cost P)
    (hR : ∀ {es}, P es → R (.mk axis test es)) :
    Reads (afterAxis expr axis) 11 (front ++ tokens) cost R :=
  ht.andThen (allows_any tokens (by decide)) (h.map hR)

/-- A step along an axis that is written. -/
theorem Reads.step_axis (ht : Reads (run nodeTest) 12 front 0 (· = test))
    (h : Reads (run (predicates expr)) 11 tokens cost P)
    (hR : ∀ {es}, P es → R (.mk axis test es)) :
    Reads (run (step expr)) 11 (.axis axis.name :: .symbol .colonColon :: (front ++ tokens)) cost
      R := by
  have haxis : Reads (run stepAxis) 12 [.axis axis.name, .symbol .colonColon] 0 (· = axis) := by
    refine .cons (fun position rest operators finish => ?_) fun _ =>
      (reads_expect .colonColon .missingColons).map fun _ => rfl
    rw [run_stepAxis]
    dsimp only
    rw [axis.ofName?_name]
  have hread := haxis.andThen (allows_any _ (by decide)) (ht.afterAxis h hR)
  exact hread.congr fun _ _ => run_step_of_axis

/-- A step along the attribute axis, which an at sign stands for. -/
theorem Reads.step_attribute (ht : Reads (run nodeTest) 12 front 0 (· = test))
    (h : Reads (run (predicates expr)) 11 tokens cost P)
    (hR : ∀ {es}, P es → R (.mk .attribute test es)) :
    Reads (run (step expr)) 11 (.symbol .atSign :: (front ++ tokens)) cost R := by
  have haxis : Reads (run stepAxis) 12 [.symbol .atSign] 0 (· = .attribute) :=
    .cons (fun _ _ _ _ => rfl) fun _ => .pure rfl
  have hread := haxis.andThen (allows_any _ (by decide)) (ht.afterAxis h hR)
  exact hread.congr fun _ _ => run_step_of_axis

/-- A step along the child axis, which is not written. -/
theorem Reads.step_child {name : String} (ht : Reads (run nodeTest) 12 [.name name] 0 (· = test))
    (h : Reads (run (predicates expr)) 11 tokens cost P)
    (hR : ∀ {es}, P es → R (.mk .child test es)) :
    Reads (run (step expr)) 11 (.name name :: tokens) cost R := by
  have hread : Reads (run stepAxis >>= Parser.afterAxis expr) 11 (.name name :: tokens) cost R :=
    .peek (fun _ _ _ _ => rfl) (ht.afterAxis h hR)
  exact hread.congr fun _ _ => run_step_of_axis

end Step

section Steps

variable {P : Step → Prop} {Q R : List Step → Prop}

theorem Reads.steps_one (h : Reads (run (step expr)) 11 tokens cost P)
    (hR : ∀ {s}, P s → R [s]) : Reads (run (steps expr)) 10 tokens cost R := by
  have hread : Reads (run (step expr) >>= stepsAfter expr) 10 (tokens ++ []) (cost + 0) R := by
    refine h.bind (fun hs => .nil (hR hs) fun rest operators finish hr => ?_) (.nil (by decide))
    rw [stepsAfter, hr.skip?_eq_none (by decide), hr.skip?_eq_none (by decide)]
  rwa [List.append_nil, ← run_steps] at hread

theorem Reads.steps_slash (h : Reads (run (step expr)) 11 tokens cost P)
    (h' : Reads (run (steps expr)) 10 tokens' cost' Q) (hR : ∀ {s ss}, P s → Q ss → R (s :: ss)) :
    Reads (run (steps expr)) 10 (tokens ++ .symbol .slash :: tokens') (cost + cost') R := by
  rw [run_steps]
  refine h.bind (fun hs => .cons (fun position rest operators finish => ?_) fun _ =>
    h'.map (hR hs)) (.cons (by decide))
  rw [stepsAfter, skip?_cons_self]

/-- Two slashes between steps stand for one more step. -/
theorem Reads.steps_doubleSlash (h : Reads (run (step expr)) 11 tokens cost P)
    (h' : Reads (run (steps expr)) 10 tokens' cost' Q)
    (hR : ∀ {s ss}, P s → Q ss → R (s :: .descendantOrSelf :: ss)) :
    Reads (run (steps expr)) 10 (tokens ++ .symbol .doubleSlash :: tokens') (cost + cost') R := by
  rw [run_steps]
  refine h.bind (fun hs => .cons (fun position rest operators finish => ?_) fun _ =>
    h'.map (hR hs)) (.cons (by decide))
  rw [stepsAfter, Parser.skip?_eq_none (by simp), skip?_cons_self]

end Steps

end Parts

/-! ## Operands -/

section Operands

variable {expr : Parse Expr} {tokens tokens' tokens'' : List Token} {cost cost' cost'' : Nat}

theorem reads_primary_literal {text : String} :
    Reads (run (primary expr)) 12 [.literal text] 0 (· = .literal text) :=
  .cons (fun _ _ _ _ => rfl) fun _ => .pure rfl

theorem reads_primary_number {value : Float} :
    Reads (run (primary expr)) 12 [.number value] 0 (· = .number value) :=
  .cons (fun _ _ _ _ => rfl) fun _ => .pure rfl

theorem reads_primary_variable {name : String} {P : Expr → Prop}
    (hP : ∀ position, P (.variable name position)) :
    Reads (run (primary expr)) 12 [.variable name] 0 P :=
  .cons (fun _ _ _ _ => rfl) fun position => .pure (hP position)

/-- An expression in parentheses. -/
theorem Reads.primary_paren {P : Expr → Prop} (h : Reads (run expr) 2 tokens cost P) :
    Reads (run (primary expr)) 12 (.symbol .leftParen :: (tokens ++ [.symbol .rightParen])) cost
      P := by
  refine .cons (fun position rest operators finish => ?_) fun _ =>
    h.closed .rightParen .unclosedParenthesis (by decide) le_rfl fun he => .pure he
  rw [run_primary]

section Arguments

variable {P : Expr → Prop} {Q R : List Expr → Prop}

theorem Reads.argumentList_one (h : Reads (run expr) 2 tokens cost P) (hR : ∀ {e}, P e → R [e]) :
    Reads (run (argumentList expr)) 1 tokens cost R := by
  have hread : Reads (run expr >>= argumentsAfter expr) 1 (tokens ++ []) (cost + 0) R := by
    refine h.bind (fun he => .nil (hR he) fun rest operators finish hr => ?_) (.nil (by decide))
    rw [argumentsAfter, hr.skip?_eq_none (by decide)]
  rwa [List.append_nil, ← run_argumentList] at hread

/-- One more argument in front of others. -/
theorem Reads.argumentList_cons (h : Reads (run expr) 2 tokens cost P)
    (h' : Reads (run (argumentList expr)) 1 tokens' cost' Q)
    (hR : ∀ {e es}, P e → Q es → R (e :: es)) :
    Reads (run (argumentList expr)) 1 (tokens ++ .symbol .comma :: tokens') (cost + cost') R := by
  rw [run_argumentList]
  refine h.bind (fun he => .cons (fun position rest operators finish => ?_) fun _ =>
    h'.map (hR he)) (.cons (by decide))
  rw [argumentsAfter, skip?_cons_self]

theorem reads_arguments_nil (name : String) :
    Reads (run (arguments expr name)) 12 [.symbol .leftParen, .symbol .rightParen] 0 (· = []) := by
  rw [run_arguments]
  have hinside : Reads (argumentsInside expr) 12 [.symbol .rightParen] 0 (· = []) := by
    refine .cons (fun position rest operators finish => ?_) fun _ => .pure rfl
    rw [argumentsInside, skip?_cons_self]
    rfl
  exact hinside.behind .leftParen (.missingParenthesis name) le_rfl

/-- Arguments in parentheses.  No argument begins with the closing one. -/
theorem Reads.arguments (name : String) (hopens : Opens opens (run expr))
    (h : Reads (run (argumentList expr)) 1 tokens cost Q) :
    Reads (run (Parser.arguments expr name)) 12
      (.symbol .leftParen :: (tokens ++ [.symbol .rightParen])) cost Q := by
  rw [run_arguments]
  have hinside : Reads (argumentsInside expr) 12 (tokens ++ [.symbol .rightParen]) cost Q := by
    have hread := h.closed .rightParen .unclosedParenthesis (by decide) le_rfl
      fun {es} (hes : Q es) => .pure hes
    refine hread.congr fun s r hr => ?_
    have hlist : Opens opens (run (argumentList expr)) := by
      rw [run_argumentList]
      exact hopens.bind
    rw [argumentsInside, hlist.bind.skip?_eq_none hr rfl]
    exact hr
  exact hinside.behind .leftParen (.missingParenthesis name) le_rfl

section Separated

variable {ι : Type} {tokensOf : ι → List Token} {costOf : ι → Nat} {P : ι → Expr → Prop}
  {xs : List ι}

/-- Arguments with commas between them. -/
theorem reads_argumentList (hne : xs ≠ [])
    (h : ∀ x ∈ xs, Reads (run expr) 2 (tokensOf x) (costOf x) (P x)) :
    Reads (run (argumentList expr)) 1 ([.symbol .comma].intercalate (xs.map tokensOf))
      (xs.map costOf).sum (List.Forall₂ P xs) := by
  induction xs with
  | nil => exact absurd rfl hne
  | cons x xs ih =>
    obtain ⟨hx, hxs⟩ := List.forall_mem_cons.mp h
    cases xs with
    | nil =>
      rw [List.map_singleton, List.intercalate_singleton, List.map_singleton, List.sum_singleton]
      exact hx.argumentList_one fun hv => .cons hv .nil
    | cons x' xs =>
      rw [List.map_cons, List.map_cons, List.intercalate_cons_cons, List.append_assoc,
        List.map_cons, List.sum_cons]
      exact hx.argumentList_cons (ih (List.cons_ne_nil _ _) hxs) .cons

theorem reads_arguments (name : String) (hopens : Opens opens (run expr))
    (h : ∀ x ∈ xs, Reads (run expr) 2 (tokensOf x) (costOf x) (P x)) :
    Reads (run (Parser.arguments expr name)) 12
      (.symbol .leftParen :: ([.symbol .comma].intercalate (xs.map tokensOf) ++
        [.symbol .rightParen]))
      (xs.map costOf).sum (List.Forall₂ P xs) := by
  cases xs with
  | nil =>
    refine (reads_arguments_nil name).imp ?_
    rintro _ rfl
    exact .nil
  | cons x xs => exact .arguments name hopens (reads_argumentList (List.cons_ne_nil x xs) h)

end Separated

/-- A function with as many arguments as it takes. -/
theorem Reads.primary_call {function : Function} {R : Expr → Prop}
    (h : Reads (run (Parser.arguments expr function.spelling)) 12 tokens cost Q)
    (hR : ∀ {es}, Q es →
      function.arity.allows es.length = true ∧ R (.call function es)) :
    Reads (run (primary expr)) 12 (.function function.spelling :: tokens) cost R := by
  have hcall : ∀ position, Reads (run (Parser.arguments expr function.spelling) >>=
      callOf function function.spelling position) 12 (tokens ++ []) (cost + 0) R := by
    refine fun position => h.bind (fun {es} hes => ?_) (.nil le_rfl)
    rw [callOf, if_pos (hR hes).1]
    exact .pure (hR hes).2
  rw [List.append_nil] at hcall
  refine .cons (fun position rest operators finish => ?_) hcall
  rw [run_primary]
  dsimp only
  rw [function.ofName?_spelling]

end Arguments

/-! ### Filters and paths -/

theorem reads_stepsBehind_nil : Reads (run (stepsBehind expr)) 10 [] 0 (· = []) := by
  refine .nil rfl fun rest operators finish hr => ?_
  rw [run_stepsBehind, hr.skip?_eq_none (by decide), hr.skip?_eq_none (by decide)]

theorem Reads.stepsBehind_slash {Q : List Step → Prop}
    (h : Reads (run (steps expr)) 10 tokens cost Q) :
    Reads (run (stepsBehind expr)) 10 (.symbol .slash :: tokens) cost Q := by
  refine .cons (fun position rest operators finish => ?_) fun _ => h
  rw [run_stepsBehind, skip?_cons_self]

/-- A primary operand with predicates and steps behind it. -/
theorem Reads.filtered {P R : Expr → Prop} {Q : List Expr → Prop} {T : List Step → Prop}
    (h : Reads (run (primary expr)) 12 tokens cost P)
    (h' : Reads (run (predicates expr)) 11 tokens' cost' Q)
    (h'' : Reads (run (stepsBehind expr)) 10 tokens'' cost'' T) (hnext : Allows 11 10 tokens'')
    (hR : ∀ {e es ss}, P e → Q es → T ss → R (withFilter e es ss)) :
    Reads (run (parsePath expr)) 10 (tokens ++ (tokens' ++ tokens'')) (cost + (cost' + cost''))
      R := by
  have hfiltered : Reads (run (Parser.filtered expr)) 10 (tokens ++ (tokens' ++ tokens''))
      (cost + (cost' + cost'')) R := by
    rw [run_filtered]
    exact h.bind (fun he => h'.bind (fun hes => h''.map fun hss => hR he hes hss) hnext)
      (allows_any _ (by decide))
  refine hfiltered.congr fun s r hr => ?_
  have hopens : Opens opensPrimary (run (Parser.filtered expr)) := by
    rw [run_filtered]
    exact opens_primary.bind
  obtain ⟨_ | ⟨t, rest⟩, operators, finish⟩ := s
  · obtain ⟨t, rest, hs, -⟩ := hopens _ r hr
    cases hs
  · obtain ⟨t, rest, hs, ht⟩ := hopens _ r hr
    cases hs
    rw [run_parsePath, if_pos (by rwa [atPrimary_cons])]
    exact hr

/-- A path that consists of a primary operand. -/
theorem Reads.parsePath_primary {P : Expr → Prop}
    (h : Reads (run (primary expr)) 12 tokens cost P) :
    Reads (run (parsePath expr)) 10 tokens cost P := by
  have hkeep : ∀ {e es ss}, P e → es = [] → ss = [] → P (withFilter e es ss) := by
    rintro e _ _ he rfl rfl
    exact he
  have hread := h.filtered reads_predicates_nil reads_stepsBehind_nil (.nil (by decide)) hkeep
  rwa [List.append_nil, List.append_nil] at hread

section Paths

variable {Q : List Step → Prop} {R : Expr → Prop}

/-- A path from the current node. -/
theorem Reads.parsePath_steps (h : Reads (run (steps expr)) 10 tokens cost Q)
    (hR : ∀ {ss}, Q ss → R (.path false ss)) : Reads (run (parsePath expr)) 10 tokens cost R := by
  have hpath : Reads (pathOf expr false) 10 tokens cost R := h.map hR
  refine hpath.congr fun s r hr => ?_
  have hopens : Opens opensStep (pathOf expr false) := opens_steps.bind
  obtain ⟨t, rest, hs, ht⟩ := hopens s r hr
  have hprimary : ¬ atPrimary s = true := by
    obtain ⟨tokens, operators, finish⟩ := s
    obtain rfl : tokens = _ := hs
    rw [atPrimary_cons, not_opensPrimary_of_opensStep ht]
    exact Bool.false_ne_true
  rw [run_parsePath, if_neg hprimary, hopens.skip?_eq_none hr rfl, hopens.skip?_eq_none hr rfl]
  exact hr

/-- The top of the document. -/
theorem reads_parsePath_top :
    Reads (run (parsePath expr)) 10 [.symbol .slash] 0 (· = .path true []) := by
  intro located rest operators finish ht hr _
  obtain ⟨position, located, rfl, hnil⟩ := map_token_eq_cons ht
  rw [List.map_eq_nil_iff] at hnil
  subst hnil
  refine ⟨_, rfl, ?_⟩
  rw [List.singleton_append, run_parsePath, if_neg (by exact Bool.false_ne_true), skip?_cons_self]
  dsimp only
  rw [if_neg hr.not_atStep]
  rfl

/-- A path from the top of the document. -/
theorem Reads.parsePath_absolute (h : Reads (run (steps expr)) 10 tokens cost Q)
    (hR : ∀ {ss}, Q ss → R (.path true ss)) :
    Reads (run (parsePath expr)) 10 (.symbol .slash :: tokens) cost R := by
  have hpath : Reads (pathOf expr true) 10 tokens cost R := h.map hR
  have hopens : Opens opensStep (pathOf expr true) := opens_steps.bind
  have hchecked :
      Reads (fun s => if atStep s then pathOf expr true s else .ok (.path true [], s)) 10 tokens
        cost R := by
    refine hpath.congr fun s r hr => ?_
    obtain ⟨t, rest, hs, ht⟩ := hopens s r hr
    have hstep : atStep s = true := by
      obtain ⟨tokens, operators, finish⟩ := s
      obtain rfl : tokens = _ := hs
      rwa [atStep_cons]
    rw [if_pos hstep]
    exact hr
  refine .cons (fun position rest operators finish => ?_) fun _ => hchecked
  rw [run_parsePath, if_neg (by exact Bool.false_ne_true), skip?_cons_self]

end Paths

/-! ### Minus signs and whole expressions -/

section Depth

variable {depth : Nat} {P R : Expr → Prop}

theorem Reads.negate (h : Reads (run (parseUnary depth)) 8 tokens cost P)
    (hR : ∀ {e}, P e → R (.negate e)) :
    Reads (run (parseUnary (depth + 1))) 8 (.symbol .minus :: tokens) cost R := by
  refine .cons (fun position rest operators finish => ?_) fun _ => h.map hR
  rw [run_parseUnary, skip?_cons_self]

/-- A union without a minus sign before it. -/
theorem Reads.parseUnary (h : Reads (run (unions (parsePath (parseOr depth)))) 8 tokens cost P) :
    Reads (run (Parser.parseUnary (depth + 1))) 8 tokens cost P := by
  refine h.congr fun s r hr => ?_
  have hopens : Opens opensPath (run (unions (parsePath (Parser.parseOr depth)))) :=
    opens_parsePath.chains (chains_unions _)
  rw [run_parseUnary, hopens.skip?_eq_none hr rfl]
  exact hr

end Depth

end Operands

/-! ## From level to level -/

section Levels

variable {depth k l cost cost' : Nat} {tokens tokens' : List Token} {P Q R : Expr → Prop}

theorem reader_two (depth : Nat) : reader depth 2 = parseOr (depth + 2) := by
  rw [parseOr]
  rfl

/-- An expression of a level is one of the next looser level. -/
theorem ReadsAt.looser (h : ReadsAt depth (k + 1) tokens cost P) (hl : 2 ≤ k) (hu : k ≤ 9) :
    ReadsAt depth k tokens cost P := by
  by_cases hk : k = 8
  · subst hk
    exact Reads.parseUnary (Reads.mono h (by decide))
  · have hc := chainsAt_reader depth (show Chained k by unfold Chained; omega)
    exact (h.leads hc.toChains).reads hc

/-- A primary operand is a path. -/
theorem ReadsAt.path (h : ReadsAt depth 12 tokens cost P) : ReadsAt depth 10 tokens cost P :=
  Reads.parsePath_primary h

/-- An expression of a level is one of all looser levels. -/
theorem ReadsAt.loosen (h : ReadsAt depth k tokens cost P) (hl : 2 ≤ l ∧ l ≤ k ∧ k ≤ 10) :
    ReadsAt depth l tokens cost P := by
  obtain ⟨hl, hlk, hk⟩ := hl
  obtain ⟨n, rfl⟩ := Nat.exists_eq_add_of_le hlk
  induction n with
  | zero => exact h
  | succ n ih =>
    have hloose : ReadsAt depth (l + n) tokens cost P :=
      ReadsAt.looser h (by omega) (by omega)
    exact ih hloose (by omega) (by omega)

/-- An expression of a level may stand alone. -/
theorem ReadsAt.parseOr (h : ReadsAt depth k tokens cost P) (hk : 2 ≤ k ∧ k ≤ 10) :
    Reads (run (Parser.parseOr (depth + 2))) 2 tokens cost P := by
  rw [← reader_two]
  exact h.loosen ⟨le_rfl, hk⟩

/-- The beginning of a chain of a level. -/
def LeadsAt (depth level : Nat) : List Token → Nat → (Expr → Prop) → Prop :=
  Leads (reader depth level) (goOnAt depth level) level

theorem ReadsAt.leadsAt (h : ReadsAt depth (k + 1) tokens cost P) (hk : Chained k) :
    LeadsAt depth k tokens cost P :=
  Reads.leads h (chainsAt_reader depth hk).toChains

theorem LeadsAt.snoc {found : Symbol} {f : Expr → Expr → Expr}
    (h : LeadsAt depth k tokens cost P) (hk : Chained k) (hf : joinAt k found = some f)
    (h' : ReadsAt depth (k + 1) tokens' cost' Q) (hR : ∀ {a b}, P a → Q b → R (f a b)) :
    LeadsAt depth k (tokens ++ .symbol found :: tokens') (cost + 1 + cost') R :=
  Leads.snoc h (chainsAt_reader depth hk) hf h' hR

theorem LeadsAt.readsAt (h : LeadsAt depth k tokens cost P) (hk : Chained k) :
    ReadsAt depth k tokens cost P :=
  Leads.reads h (chainsAt_reader depth hk)

/-- Two operands with an operator between them. -/
theorem ReadsAt.joined {found : Symbol} {f : Expr → Expr → Expr}
    (h : ReadsAt depth (k + 1) tokens cost P) (hk : Chained k) (hf : joinAt k found = some f)
    (h' : ReadsAt depth (k + 1) tokens' cost' Q) (hR : ∀ {a b}, P a → Q b → R (f a b)) :
    ReadsAt depth k (tokens ++ .symbol found :: tokens') (cost + 1 + cost') R :=
  ((h.leadsAt hk).snoc hk hf h' hR).readsAt hk

end Levels

/-- Tokens that are read as a whole are an expression of the kind that they are read as. -/
theorem Reads.exists_ofTokens {located : List Located} {tokens : List Token} {cost : Nat}
    {P : Expr → Prop} (h : Reads (run (parseOr maxDepth)) 2 tokens cost P)
    (ht : located.map (·.token) = tokens) (hne : tokens ≠ []) (hc : cost ≤ maxOperators)
    (finish : Nat) :
    ∃ e, P e ∧ Expr.ofTokens located finish = .ok e := by
  obtain ⟨e, he, hread⟩ := h located [] 0 finish ht (.nil 2) (by omega)
  refine ⟨e, he, ?_⟩
  rw [List.append_nil] at hread
  obtain ⟨r, hr, hresult⟩ := map_eq_ok.mp hread
  have hnil : ¬ located.isEmpty = true := by
    rw [List.isEmpty_iff]
    rintro rfl
    exact hne ht.symm
  obtain ⟨hv, hrest⟩ := Prod.mk.inj hresult
  rw [Expr.ofTokens, if_neg hnil, hr, ok_bind, hrest, hv]
  rfl

theorem Reads.ofTokens {located : List Located} {tokens : List Token} {cost finish : Nat} {e : Expr}
    (h : Reads (run (parseOr maxDepth)) 2 tokens cost (· = e))
    (ht : located.map (·.token) = tokens) (hne : tokens ≠ []) (hc : cost ≤ maxOperators) :
    Expr.ofTokens located finish = .ok e := by
  obtain ⟨_, rfl, he⟩ := h.exists_ofTokens ht hne hc finish
  exact he

end Parser

end HtmlQuery
