import HtmlQuery.Proofs.Query.Pointing
import HtmlQuery.Proofs.Query.Spelling
import HtmlQuery.Proofs.Query.Typing

/-!
# Reading always goes on

A loop or a recursion ends if each of its rounds goes on from less than it was given.  Here a round
is written without the recursion, as a function of what the next round gives, and it `Descends` if
what it makes of this hangs on smaller arguments only.  This says more than that the whole ends: no
round goes on from where it was, whatever the next one would give there.

For reading tokens the size is the number of characters, and for the loops of the parser that of the
tokens that are left.  The two functions of the parser that call each other are one recursion over
the calls, and of two calls that lead to each other the second one comes at least one token later.
So the limit on nesting is not what makes the parser end: with enough of it for the tokens that are
left, more of it changes nothing.

An error is placed in the expression then, at its end at most, and never inside a character.
-/

namespace HtmlQuery

/-! ## Recursions -/

section Recursion

variable {σ : Type} {β : σ → Type}

/-- What `body` gives at an argument hangs only on what it is told of smaller arguments. -/
def Descends (size : σ → Nat) (body : ((x : σ) → β x) → (x : σ) → β x) : Prop :=
  ∀ f g x, (∀ y, size y < size x → f y = g y) → body f x = body g x

/-- What `body` gives at `x` hangs on what it is told of `y`. -/
def Asks (body : ((x : σ) → β x) → (x : σ) → β x) (x y : σ) : Prop :=
  ∃ f g, (∀ z, z ≠ y → f z = g z) ∧ body f x ≠ body g x

/-- A loop is what its rounds make of it, and each round goes on from less. -/
structure Loops (size : σ → Nat) (body : ((x : σ) → β x) → (x : σ) → β x) (f : (x : σ) → β x) :
    Prop where
  round : ∀ x, f x = body f x
  descends : Descends size body

variable {size : σ → Nat} {body : ((x : σ) → β x) → (x : σ) → β x} {x y : σ}

theorem Descends.lt_of_asks (h : Descends size body) (ha : Asks body x y) : size y < size x := by
  obtain ⟨f, g, hsame, hne⟩ := ha
  by_contra hle
  refine hne (h f g x fun z hz => hsame z ?_)
  rintro rfl
  exact hle hz

/-- No chain of calls comes back to where it began. -/
theorem Descends.lt_of_transGen (h : Descends size body)
    (ha : Relation.TransGen (Asks body) x y) : size y < size x := by
  induction ha with
  | single ha => exact h.lt_of_asks ha
  | tail _ ha ih => exact (h.lt_of_asks ha).trans ih

/-- A recursion that is unrolled beyond the size of its argument gives its result. -/
theorem Descends.unrolled_eq (h : Descends size body) {u : Nat → (x : σ) → β x}
    (hu : ∀ n, u (n + 1) = body (u n)) {m n : Nat} (hm : size x < m) (hn : size x < n) :
    u m x = u n x := by
  induction m generalizing n x with
  | zero => exact absurd hm (Nat.not_lt_zero _)
  | succ m ih =>
    cases n with
    | zero => exact absurd hn (Nat.not_lt_zero _)
    | succ n =>
      rw [hu, hu]
      exact h _ _ x fun y hy => ih (by omega) (by omega)

end Recursion

/-! ## Reading tokens -/

/-- One round of reading tokens: white space or a token, and then what follows it. -/
def lexRound (again : Nat × Bool × List Char → Except QueryError (List Located)) :
    Nat × Bool × List Char → Except QueryError (List Located)
  | (_, _, []) => .ok []
  | (position, afterOperand, c :: cs) =>
    if Text.isSpace c then again (position + c.utf8Size, afterOperand, cs)
    else
      match scan afterOperand c cs with
      | .error e => .error ⟨e.fault, position + e.offset⟩
      | .ok s =>
        match again (position + byteLength s.front, s.token.endsOperand, s.rest) with
        | .error e => .error e
        | .ok tokens => .ok (⟨s.token, position⟩ :: tokens)

theorem loops_lexFrom :
    Loops (fun x => x.2.2.length) lexRound fun x => lexFrom x.1 x.2.1 x.2.2 where
  round x := by
    obtain ⟨position, afterOperand, _ | ⟨c, cs⟩⟩ := x
    · exact lexFrom.eq_1 position afterOperand
    · exact lexFrom.eq_2 position afterOperand c cs
  descends f g x h := by
    obtain ⟨position, afterOperand, _ | ⟨c, cs⟩⟩ := x
    · rfl
    · simp only [lexRound]
      split
      · exact h _ (Nat.lt_succ_self _)
      · cases scan afterOperand c cs with
        | error e => rfl
        | ok s =>
          have hrest := h (position + byteLength s.front, s.token.endsOperand, s.rest)
            s.length_rest_lt
          simp only [hrest]

namespace Parser

/-! ## Programs that are alike -/

section Programs

variable {α β : Type} {n : Nat} {s t : State}

/-- Two programs do the same where fewer than so many tokens are left. -/
def AlikeBelow (n : Nat) (x y : Run α) : Prop :=
  ∀ s, s.tokens.length < n → x s = y s

theorem length_le_of_run {p : Parse α} {v : α} (h : run p s = .ok (v, t)) :
    t.tokens.length ≤ s.tokens.length := by
  obtain ⟨r, -, hr⟩ := map_eq_ok.mp h
  obtain ⟨-, rfl⟩ := Prod.mk.inj hr
  exact r.length_le

/-- Nothing that a parser gives is lost where it runs. -/
theorem eq_of_run_eq {p q : Parse α} (h : run p s = run q s) : p s = q s := by
  rw [run, run] at h
  cases hp : p s with
  | error e =>
    cases hq : q s with
    | error e' =>
      rw [hp, hq] at h
      cases h
      rfl
    | ok r =>
      rw [hp, hq] at h
      cases h
  | ok r =>
    obtain ⟨v, t, ht⟩ := r
    cases hq : q s with
    | error e =>
      rw [hp, hq] at h
      cases h
    | ok r' =>
      obtain ⟨v', t', ht'⟩ := r'
      rw [hp, hq] at h
      cases h
      rfl

variable {x y : Run α} {p q : Parse α} {f g : α → Run β}

theorem alikeBelow_zero : AlikeBelow 0 x y :=
  fun _ hs => absurd hs (Nat.not_lt_zero _)

theorem AlikeBelow.refl (x : Run α) : AlikeBelow n x x :=
  fun _ _ => rfl

theorem AlikeBelow.mono {m : Nat} (h : AlikeBelow n x y) (hm : m ≤ n) : AlikeBelow m x y :=
  fun s hs => h s (hs.trans_le hm)

/-- Loops are alike if their rounds are, and each goes on behind a token. -/
theorem alikeBelow_of_rounds {body body' : Run α → Run α} (hx : x = body x) (hy : y = body' y)
    (h : ∀ m, m < n → AlikeBelow m x y → AlikeBelow (m + 1) (body x) (body' y)) :
    AlikeBelow n x y := by
  induction n with
  | zero => exact alikeBelow_zero
  | succ n ih =>
    have hround := h n (Nat.lt_succ_self n) (ih fun m hm => h m (hm.trans (Nat.lt_succ_self n)))
    rwa [← hx, ← hy] at hround

theorem AlikeBelow.bind (h : AlikeBelow n (run p) (run q)) (h' : ∀ v, AlikeBelow n (f v) (g v)) :
    AlikeBelow n (run p >>= f) (run q >>= g) := by
  intro s hs
  show (run p s >>= _) = (run q s >>= _)
  rw [h s hs]
  cases hq : run q s with
  | error e => rfl
  | ok r => exact h' r.1 r.2 ((length_le_of_run hq).trans_lt hs)

theorem AlikeBelow.map {k : α → β} (h : AlikeBelow n x y) :
    AlikeBelow n (x >>= fun v => pure (k v)) (y >>= fun v => pure (k v)) := by
  intro s hs
  show (x s >>= _) = (y s >>= _)
  rw [h s hs]

/-- Counting an operator takes no token. -/
theorem AlikeBelow.count {f g : Unit → Run β} (h : AlikeBelow n (f ()) (g ())) :
    AlikeBelow n (Parser.count >>= f) (Parser.count >>= g) := by
  intro s hs
  show (Parser.count s >>= _) = (Parser.count s >>= _)
  cases hcount : Parser.count s with
  | error e => rfl
  | ok r =>
    obtain ⟨⟨u, hu⟩, -, hr⟩ := map_eq_ok.mp hcount
    cases hr
    refine h u ?_
    rwa [hu]

/-- What is read behind a symbol. -/
theorem AlikeBelow.behind {symbol : Symbol} (h : AlikeBelow n x y) (hs : s.tokens.length < n + 1)
    (hskip : skip? symbol s = some t) : x t = y t := by
  have hlt := (later_of_skip? hskip).1
  exact h t (by omega)

end Programs

/-! ## Rounds -/

section Rounds

variable {n : Nat} {expr expr' : Parse Expr}

/-- One predicate, and what follows it. -/
def predicatesRound (expr : Parse Expr) (again : Run (List Expr)) : Run (List Expr) := fun s =>
  match skip? .leftBracket s with
  | none => .ok ([], s)
  | some t =>
    (do
      let e ← run expr
      let _ ← run (expect .rightBracket .unclosedPredicate)
      let es ← again
      return e :: es : Run (List Expr)) t

/-- What follows a step, given what the steps behind a slash are. -/
def stepsNext (again : Run (List Step)) (first : Step) : Run (List Step) := fun s =>
  match skip? .slash s, skip? .doubleSlash s with
  | some t, _ =>
    (do
      let more ← again
      return first :: more : Run (List Step)) t
  | none, some t =>
    (do
      let more ← again
      return first :: .descendantOrSelf :: more : Run (List Step)) t
  | none, none => .ok ([first], s)

/-- One step, and what follows it. -/
def stepsRound (expr : Parse Expr) (again : Run (List Step)) : Run (List Step) :=
  run (step expr) >>= stepsNext again

/-- What follows an argument, given what the arguments behind a comma are. -/
def argumentsNext (again : Run (List Expr)) (first : Expr) : Run (List Expr) := fun s =>
  match skip? .comma s with
  | some t =>
    (do
      let more ← again
      return first :: more : Run (List Expr)) t
  | none => .ok ([first], s)

/-- One argument, and what follows it. -/
def argumentsRound (expr : Parse Expr) (again : Run (List Expr)) : Run (List Expr) :=
  run expr >>= argumentsNext again

/-- One operator and its right operand, and what follows them. -/
def joinRound (join : Symbol → Option (Expr → Expr → Expr)) (operand : Parse Expr)
    (again : Expr → Run Expr) (left : Expr) : Run Expr := fun s =>
  match next? join s with
  | none => .ok (left, s)
  | some (f, t) =>
    (do
      let _ ← count
      let right ← run operand
      again (f left right) : Run Expr) t

theorem run_predicates_eq :
    run (predicates expr) = predicatesRound expr (run (predicates expr)) :=
  funext fun _ => run_predicates

theorem run_steps_eq : run (steps expr) = stepsRound expr (run (steps expr)) :=
  run_steps

theorem run_argumentList_eq :
    run (argumentList expr) = argumentsRound expr (run (argumentList expr)) :=
  run_argumentList

theorem Chains.run_goOn_eq {whole operand : Parse Expr}
    {join : Symbol → Option (Expr → Expr → Expr)} {goOn : Expr → Parse Expr}
    (hc : Chains whole operand join goOn) (left : Expr) :
    run (goOn left) = joinRound join operand (fun e => run (goOn e)) left :=
  funext fun s => hc.run_goOn left s

theorem predicatesRound_congr {again again' : Run (List Expr)}
    (h : AlikeBelow n (run expr) (run expr')) (ha : AlikeBelow n again again') :
    AlikeBelow (n + 1) (predicatesRound expr again) (predicatesRound expr' again') := by
  intro s hs
  unfold predicatesRound
  cases hskip : skip? .leftBracket s with
  | none => rfl
  | some t => exact (h.bind fun e => (AlikeBelow.refl _).bind fun _ => ha.map).behind hs hskip

theorem stepsNext_congr {again again' : Run (List Step)} (ha : AlikeBelow n again again')
    (first : Step) : AlikeBelow (n + 1) (stepsNext again first) (stepsNext again' first) := by
  intro s hs
  unfold stepsNext
  cases hslash : skip? .slash s with
  | some t => exact ha.map.behind hs hslash
  | none =>
    cases hslashes : skip? .doubleSlash s with
    | some t => exact ha.map.behind hs hslashes
    | none => rfl

theorem argumentsNext_congr {again again' : Run (List Expr)} (ha : AlikeBelow n again again')
    (first : Expr) :
    AlikeBelow (n + 1) (argumentsNext again first) (argumentsNext again' first) := by
  intro s hs
  unfold argumentsNext
  cases hcomma : skip? .comma s with
  | some t => exact ha.map.behind hs hcomma
  | none => rfl

theorem joinRound_congr {join : Symbol → Option (Expr → Expr → Expr)}
    {operand operand' : Parse Expr} {again again' : Expr → Run Expr}
    (h : AlikeBelow n (run operand) (run operand')) (ha : ∀ e, AlikeBelow n (again e) (again' e))
    (left : Expr) :
    AlikeBelow (n + 1) (joinRound join operand again left)
      (joinRound join operand' again' left) := by
  intro s hs
  unfold joinRound
  cases hnext : next? join s with
  | none => rfl
  | some r =>
    obtain ⟨f, t⟩ := r
    obtain ⟨-, -, hlt, -⟩ := later_of_next? hnext
    exact (AlikeBelow.count (h.bind fun right => ha (f left right))) t (by omega)

/-- A round of a loop over states that goes on behind a token. -/
theorem descends_of_congr {α : Type} {body : Run α → Run α}
    (h : ∀ n x y, AlikeBelow n x y → AlikeBelow (n + 1) (body x) (body y)) :
    Descends (fun s : State => s.tokens.length) body :=
  fun f g s hs => h s.tokens.length f g hs s (Nat.lt_succ_self _)

theorem loops_predicates (expr : Parse Expr) :
    Loops (fun s : State => s.tokens.length) (predicatesRound expr) (run (predicates expr)) where
  round := congrFun run_predicates_eq
  descends := descends_of_congr fun _ _ _ ha => predicatesRound_congr (.refl _) ha

theorem loops_steps (expr : Parse Expr) :
    Loops (fun s : State => s.tokens.length) (stepsRound expr) (run (steps expr)) where
  round := congrFun run_steps_eq
  descends := descends_of_congr fun _ _ _ ha => (AlikeBelow.refl _).bind (stepsNext_congr ha)

theorem loops_argumentList (expr : Parse Expr) :
    Loops (fun s : State => s.tokens.length) (argumentsRound expr) (run (argumentList expr)) where
  round := congrFun run_argumentList_eq
  descends := descends_of_congr fun _ _ _ ha => (AlikeBelow.refl _).bind (argumentsNext_congr ha)

theorem Chains.loops {whole operand : Parse Expr} {join : Symbol → Option (Expr → Expr → Expr)}
    {goOn : Expr → Parse Expr} (hc : Chains whole operand join goOn) :
    Loops (fun x : Expr × State => x.2.tokens.length)
      (fun again x => joinRound join operand (fun e s => again (e, s)) x.1 x.2)
      (fun x => run (goOn x.1) x.2) where
  round x := congrFun (hc.run_goOn_eq x.1) x.2
  descends f g x h := by
    refine joinRound_congr (.refl _) (fun e s hs => ?_) x.1 x.2 (Nat.lt_succ_self _)
    exact h (e, s) hs

end Rounds

/-! ## Parsers that are alike -/

section Parsers

variable {n : Nat} {expr expr' : Parse Expr}

theorem AlikeBelow.predicates (h : AlikeBelow n (run expr) (run expr')) :
    AlikeBelow (n + 1) (run (predicates expr)) (run (predicates expr')) :=
  alikeBelow_of_rounds run_predicates_eq run_predicates_eq fun _ hm ha =>
    predicatesRound_congr (h.mono (Nat.le_of_lt_succ hm)) ha

theorem AlikeBelow.step (h : AlikeBelow n (run expr) (run expr')) :
    AlikeBelow (n + 1) (run (step expr)) (run (step expr')) := by
  intro s hs
  rw [run_step, run_step]
  cases skip? .dot s with
  | some t => rfl
  | none =>
    cases skip? .dotDot s with
    | some t => rfl
    | none =>
      exact ((AlikeBelow.refl _).bind fun axis => (AlikeBelow.refl _).bind fun test =>
        h.predicates.map) s hs

theorem AlikeBelow.steps (h : AlikeBelow n (run expr) (run expr')) :
    AlikeBelow (n + 1) (run (steps expr)) (run (steps expr')) :=
  alikeBelow_of_rounds run_steps_eq run_steps_eq fun _ hm ha =>
    (h.mono (Nat.le_of_lt_succ hm)).step.bind (stepsNext_congr ha)

theorem AlikeBelow.stepsBehind (h : AlikeBelow n (run expr) (run expr')) :
    AlikeBelow (n + 1) (run (stepsBehind expr)) (run (stepsBehind expr')) := by
  have hsteps := h.steps.mono (Nat.le_succ n)
  intro s hs
  rw [run_stepsBehind, run_stepsBehind]
  cases hslash : skip? .slash s with
  | some t => exact hsteps.behind hs hslash
  | none =>
    cases hslashes : skip? .doubleSlash s with
    | some t => exact hsteps.map.behind hs hslashes
    | none => rfl

/-- The first argument is read from where the arguments begin. -/
theorem AlikeBelow.argumentList (h : AlikeBelow n (run expr) (run expr')) :
    AlikeBelow n (run (argumentList expr)) (run (argumentList expr')) :=
  alikeBelow_of_rounds run_argumentList_eq run_argumentList_eq fun _ hm ha =>
    (h.mono (Nat.succ_le_of_lt hm)).bind (argumentsNext_congr ha)

theorem AlikeBelow.argumentsInside (h : AlikeBelow n (run expr) (run expr')) :
    AlikeBelow n (argumentsInside expr) (argumentsInside expr') := by
  intro s hs
  unfold Parser.argumentsInside
  cases skip? .rightParen s with
  | some t => rfl
  | none => exact (h.argumentList.bind fun args => .refl _) s hs

theorem AlikeBelow.primary (h : AlikeBelow n (run expr) (run expr')) :
    AlikeBelow (n + 1) (run (primary expr)) (run (primary expr')) := by
  intro s hs
  rw [run_primary, run_primary]
  obtain ⟨tokens, operators, finish⟩ := s
  match tokens with
  | ⟨.symbol symbol, _⟩ :: rest =>
    cases symbol with
    | leftParen =>
      exact (h.bind fun e => .refl _) ⟨rest, operators, finish⟩ (Nat.lt_of_succ_lt_succ hs)
    | _ => rfl
  | ⟨.function name, position⟩ :: rest =>
    dsimp only
    cases Function.ofName? name with
    | none => rfl
    | some function =>
      have harguments : AlikeBelow n (run (arguments expr name)) (run (arguments expr' name)) := by
        rw [run_arguments, run_arguments]
        exact (AlikeBelow.refl _).bind fun _ => h.argumentsInside
      exact (harguments.bind fun args => .refl _) ⟨rest, operators, finish⟩
        (Nat.lt_of_succ_lt_succ hs)
  | [] | ⟨.number _, _⟩ :: _ | ⟨.literal _, _⟩ :: _ | ⟨.variable _, _⟩ :: _ | ⟨.name _, _⟩ :: _
  | ⟨.axis _, _⟩ :: _ | ⟨.nodeType _, _⟩ :: _ => rfl

theorem AlikeBelow.filtered (h : AlikeBelow n (run expr) (run expr')) :
    AlikeBelow (n + 1) (run (filtered expr)) (run (filtered expr')) := by
  rw [run_filtered, run_filtered]
  exact h.primary.bind fun e => h.predicates.bind fun es => h.stepsBehind.map

theorem AlikeBelow.pathOf (h : AlikeBelow n (run expr) (run expr')) (absolute : Bool) :
    AlikeBelow (n + 1) (pathOf expr absolute) (pathOf expr' absolute) :=
  h.steps.map

/-- Whatever a path contains is read behind a token of it. -/
theorem AlikeBelow.parsePath (h : AlikeBelow n (run expr) (run expr')) :
    AlikeBelow (n + 1) (run (parsePath expr)) (run (parsePath expr')) := by
  intro s hs
  rw [run_parsePath, run_parsePath]
  split
  · exact h.filtered s hs
  · cases hslash : skip? .slash s with
    | some t =>
      dsimp only
      split
      · exact ((h.pathOf true).mono (Nat.le_succ n)).behind hs hslash
      · rfl
    | none =>
      cases hslashes : skip? .doubleSlash s with
      | some t => exact (h.steps.mono (Nat.le_succ n)).map.behind hs hslashes
      | none => exact h.pathOf false s hs

theorem AlikeBelow.goOn {whole whole' operand operand' : Parse Expr}
    {join : Symbol → Option (Expr → Expr → Expr)} {goOn goOn' : Expr → Parse Expr}
    (hc : Chains whole operand join goOn) (hc' : Chains whole' operand' join goOn')
    (h : AlikeBelow n (run operand) (run operand')) (left : Expr) :
    AlikeBelow n (run (goOn left)) (run (goOn' left)) := by
  induction n generalizing left with
  | zero => exact alikeBelow_zero
  | succ n ih =>
    have hless := h.mono (Nat.le_succ n)
    rw [hc.run_goOn_eq, hc'.run_goOn_eq]
    exact joinRound_congr hless (ih hless) left

theorem AlikeBelow.chains {whole whole' operand operand' : Parse Expr}
    {join : Symbol → Option (Expr → Expr → Expr)} {goOn goOn' : Expr → Parse Expr}
    (hc : Chains whole operand join goOn) (hc' : Chains whole' operand' join goOn')
    (h : AlikeBelow n (run operand) (run operand')) : AlikeBelow n (run whole) (run whole') := by
  rw [hc.run_whole, hc'.run_whole]
  exact h.bind fun left => .goOn hc hc' h left

theorem AlikeBelow.parseLevels {operand operand' : Parse Expr}
    (h : AlikeBelow n (run operand) (run operand')) :
    AlikeBelow n (run (parseLevels operand)) (run (parseLevels operand')) := by
  have hchain : ∀ {p q : Parse Expr} (level : Symbol → Option BinaryOp),
      AlikeBelow n (run p) (run q) → AlikeBelow n (run (chain level p)) (run (chain level q)) :=
    fun level h => .chains (chains_chain level _) (chains_chain level _) h
  exact hchain orLevel <| hchain andLevel <| hchain equalityLevel <| hchain orderLevel <|
    hchain sumLevel <| hchain productLevel h

end Parsers

/-! ## Calls -/

/-- The two functions that the recursion of the parser passes through. -/
inductive Routine where
  /-- An expression. -/
  | expression
  /-- An operand of a product. -/
  | operand

/-- A routine, so many nestings being left. -/
def parseAt (depth : Nat) : Routine → Parse Expr
  | .expression => parseOr depth
  | .operand => parseUnary depth

theorem length_le_of_behind {s t rest : State} (h : t.tokens.length < s.tokens.length)
    (h' : rest.tokens.length ≤ t.tokens.length) : rest.tokens.length ≤ s.tokens.length :=
  h'.trans h.le

/-- What a routine does, given what the routines that it calls do. -/
def routineRound (calls : Routine → Parse Expr) : Routine → Parse Expr
  | .expression => parseLevels (calls .operand)
  | .operand => fun s =>
    match eat? .minus s with
    | some ⟨t, h⟩ => do
      let ⟨operand, rest, h₁⟩ ← calls .operand t
      return ⟨.negate operand, rest, length_le_of_behind h h₁⟩
    | none => unions (parsePath (calls .expression)) s

/-- A call of a routine at a state. -/
abbrev Call : Type :=
  Routine × State

/-- What a call gives, given what all calls give. -/
def callRound (calls : (c : Call) → Except QueryError (Reading c.2 Expr)) (c : Call) :
    Except QueryError (Reading c.2 Expr) :=
  routineRound (fun r s => calls (r, s)) c.1 c.2

/-- The size of a call.  An expression asks for an operand that begins where it does itself. -/
def Call.size : Call → Nat
  | (.expression, s) => 2 * s.tokens.length + 1
  | (.operand, s) => 2 * s.tokens.length

/-- One more nesting is one more round. -/
theorem parseAt_succ (depth : Nat) : parseAt (depth + 1) = routineRound (parseAt depth) := by
  funext r s
  cases r with
  | expression => rfl
  | operand => rfl

theorem run_routineRound_operand {calls : Routine → Parse Expr} {s : State} :
    run (routineRound calls .operand) s =
      match skip? .minus s with
      | some t =>
        (do
          let operand ← run (calls .operand)
          return .negate operand : Run Expr) t
      | none => run (unions (parsePath (calls .expression))) s := by
  rw [run, routineRound, skip?]
  dsimp only
  rcases eat? .minus s with _ | ⟨t, _⟩
  · rfl
  · simp only [run, Option.map_some, bind, StateT.bind]
    rcases calls .operand t with _ | _ <;> rfl

/-- A call asks for smaller calls only. -/
theorem descends_callRound : Descends Call.size callRound := by
  intro f g c h
  obtain ⟨r, s⟩ := c
  refine eq_of_run_eq ?_
  have hrun : ∀ r' t, Call.size (r', t) < Call.size (r, s) →
      run (fun u => f (r', u)) t = run (fun u => g (r', u)) t := fun r' t ht =>
    congrArg (Except.map _) (h (r', t) ht)
  cases r with
  | expression =>
    refine AlikeBelow.parseLevels (n := s.tokens.length + 1) (fun t ht => hrun .operand t ?_) s
      (Nat.lt_succ_self _)
    show 2 * t.tokens.length < 2 * s.tokens.length + 1
    omega
  | operand =>
    have hless : ∀ r', AlikeBelow s.tokens.length (run fun u => f (r', u))
        (run fun u => g (r', u)) := by
      intro r' t ht
      refine hrun r' t ?_
      show Call.size (r', t) < 2 * s.tokens.length
      cases r' with
      | expression =>
        show 2 * t.tokens.length + 1 < 2 * s.tokens.length
        omega
      | operand =>
        show 2 * t.tokens.length < 2 * s.tokens.length
        omega
    show run (routineRound (fun r u => f (r, u)) .operand) s =
      run (routineRound (fun r u => g (r, u)) .operand) s
    rw [run_routineRound_operand, run_routineRound_operand]
    cases hskip : skip? .minus s with
    | some t => exact (hless .operand).map.behind (Nat.lt_succ_self _) hskip
    | none =>
      exact (AlikeBelow.chains (chains_unions _) (chains_unions _) (hless .expression).parsePath) s
        (Nat.lt_succ_self _)

/-- Behind a minus sign an operand is asked for. -/
theorem asks_behind_minus {s t : State} (h : skip? .minus s = some t) :
    Asks callRound (.operand, s) (.operand, t) := by
  classical
  let f : (c : Call) → Except QueryError (Reading c.2 Expr) := fun _ => .error ⟨.tooDeep, 0⟩
  let g := Function.update f (.operand, t) (.error ⟨.unexpectedEnd, 0⟩)
  have hf : run (routineRound (fun r u => f (r, u)) .operand) s = .error ⟨.tooDeep, 0⟩ := by
    rw [run_routineRound_operand, h]
    rfl
  have hg : run (routineRound (fun r u => g (r, u)) .operand) s = .error ⟨.unexpectedEnd, 0⟩ := by
    have hcall : g (.operand, t) = .error ⟨.unexpectedEnd, 0⟩ := Function.update_self _ _ f
    rw [run_routineRound_operand, h]
    show ((g (.operand, t)).map _ >>= _) = _
    rw [hcall]
    rfl
  refine ⟨f, g, fun c hc => (Function.update_of_ne hc _ f).symm, fun hsame => ?_⟩
  have hrun : run (routineRound (fun r u => f (r, u)) .operand) s =
      run (routineRound (fun r u => g (r, u)) .operand) s := congrArg (Except.map _) hsame
  cases hf.symm.trans (hrun.trans hg)

/-- The parser goes on.  Its calls are rounds of one recursion, and of two calls of a routine that
lead from one to the other the second one comes at least one token later.  With so much nesting
allowed that the tokens cannot use it up, more of it makes no difference.  Every round of a loop
goes on behind a token, and what is left is an end of what there was. -/
structure Progresses : Prop where
  rounds : ∀ depth c, parseAt (depth + 1) c.1 c.2 = callRound (fun c => parseAt depth c.1 c.2) c
  descends : Descends Call.size callRound
  asks : ∀ s t, skip? .minus s = some t → Asks callRound (.operand, s) (.operand, t)
  cycles : ∀ r s t, Relation.TransGen (Asks callRound) (r, s) (r, t) →
    t.tokens.length < s.tokens.length
  unlimited : ∀ r s m n, 2 * s.tokens.length + 2 ≤ m → 2 * s.tokens.length + 2 ≤ n →
    parseAt m r s = parseAt n r s
  operators : ∀ level operand, Loops (fun x : Expr × State => x.2.tokens.length)
    (fun again x => joinRound (joinLevel level) operand (fun e s => again (e, s)) x.1 x.2)
    (fun x => run (chainFrom level operand x.1) x.2)
  unions : ∀ operand, Loops (fun x : Expr × State => x.2.tokens.length)
    (fun again x => joinRound joinUnion operand (fun e s => again (e, s)) x.1 x.2)
    (fun x => run (unionFrom operand x.1) x.2)
  steps : ∀ expr, Loops (fun s : State => s.tokens.length) (stepsRound expr) (run (steps expr))
  predicates : ∀ expr, Loops (fun s : State => s.tokens.length) (predicatesRound expr)
    (run (predicates expr))
  arguments : ∀ expr, Loops (fun s : State => s.tokens.length) (argumentsRound expr)
    (run (argumentList expr))
  cursor : ∀ depth r s v t, run (parseAt depth r) s = .ok (v, t) → t.tokens <:+ s.tokens

theorem progresses : Progresses where
  rounds depth c := congrFun (congrFun (parseAt_succ depth) c.1) c.2
  descends := descends_callRound
  asks s t := asks_behind_minus
  cycles r s t h := by
    have hlt := descends_callRound.lt_of_transGen h
    cases r with
    | expression =>
      replace hlt : 2 * t.tokens.length + 1 < 2 * s.tokens.length + 1 := hlt
      omega
    | operand =>
      replace hlt : 2 * t.tokens.length < 2 * s.tokens.length := hlt
      omega
  unlimited r s m n hm hn := by
    have hsize : Call.size (r, s) < 2 * s.tokens.length + 2 := by
      cases r with
      | expression => exact Nat.lt_succ_self _
      | operand => exact Nat.lt_add_of_pos_right Nat.zero_lt_two
    exact descends_callRound.unrolled_eq (u := fun depth c => parseAt depth c.1 c.2)
      (fun depth => funext fun c => congrFun (congrFun (parseAt_succ depth) c.1) c.2)
      (hsize.trans_le hm) (hsize.trans_le hn)
  operators level operand := (chains_chain level operand).loops
  unions operand := (chains_unions operand).loops
  steps := loops_steps
  predicates := loops_predicates
  arguments := loops_argumentList
  cursor depth r s v t h := by
    have hfaithful : Faithful s (parseAt depth r) := by
      cases r with
      | expression => exact (faithful_parse s depth).1
      | operand => exact (faithful_parse s depth).2
    exact ((hfaithful _ s (.refl s) le_rfl).ok v t h).2.suffix

end Parser

/-! ## Places of errors -/

/-- An error is placed at a character of an expression or at its end. -/
structure QueryError.LiesIn (expression : String) (e : QueryError) : Prop where
  position_le : e.position ≤ expression.utf8ByteSize
  isValid : (⟨e.position⟩ : String.Pos.Raw).IsValid expression

section Errors

variable {expression : String}

theorem liesIn_of_isValid {e : QueryError}
    (h : (⟨e.position⟩ : String.Pos.Raw).IsValid expression) : e.LiesIn expression :=
  ⟨h.le_utf8ByteSize, h⟩

theorem liesIn_zero (fault : Fault) : (⟨fault, 0⟩ : QueryError).LiesIn expression :=
  liesIn_of_isValid String.Pos.Raw.isValid_zero

/-- Where an expression is not read, the error lies in it. -/
theorem liesIn_of_parse {e : QueryError} (h : Expr.parse expression = .error e) :
    e.LiesIn expression := by
  refine liesIn_of_isValid ?_
  rcases Expr.parse_points h with
    ⟨before, behind, htext, hposition, -⟩ | ⟨tokens, htokens, ⟨-, rfl⟩ | hpoints⟩
  · exact hposition ▸ isValid_byteLength htext
  · exact String.Pos.Raw.isValid_zero
  · obtain ⟨read, s, happend, hfinish, hposition, -⟩ := hpoints
    rw [hposition, Parser.State.position]
    split
    next =>
      rw [hfinish]
      exact String.Pos.Raw.isValid_rawEndPos
    next t rest hrest =>
      replace happend : read ++ s.tokens = tokens := happend
      refine (position_of_mem_tokenize htokens ?_).2
      rw [← happend, hrest]
      exact List.mem_append_right read List.mem_cons_self

/-- What goes wrong at a value is noticed at a variable or at the beginning. -/
theorem failsOnly_liesIn {e : Expr} (h : Expr.parse expression = .ok e) (n : Node) :
    FailsOnly (QueryError.LiesIn expression) (e.valueAt n) := by
  obtain ⟨tokens, htokens, htree⟩ := bind_eq_ok.mp h
  have hnamed := (Expr.ofTokens_points tokens _).1 e htree
  have hchecked := (Expr.allowed_of_parse h).wellFormed
  refine failsOnly_eval (fun p hp => ⟨hchecked p hp, fun name position hname => ?_, ?_⟩) _
  · exact liesIn_of_isValid (position_of_mem_tokenize htokens (hnamed p hp name position hname)).2
  · exact fun _ _ => .inr fun _ _ => liesIn_zero _

theorem Query.failsOnly_evaluate {q : Query} (h : Query.compile expression = .ok q) (n : Node) :
    FailsOnly (QueryError.LiesIn expression) (q.evaluate n) := by
  obtain ⟨e, he, hq⟩ := bind_eq_ok.mp h
  obtain rfl := Except.ok.inj hq
  exact failsOnly_liesIn he _

theorem Query.failsOnly_select {q : Query} (h : Query.compile expression = .ok q) (n : Node) :
    FailsOnly (QueryError.LiesIn expression) (q.select n) := by
  refine (Query.failsOnly_evaluate h n).bind fun v _ => ?_
  cases v with
  | nodeSet nodes => exact failsOnly_ok nodes
  | _ =>
    rintro _ ⟨⟩
    exact liesIn_zero _

theorem Query.failsOnly_selectFirst? {q : Query} (h : Query.compile expression = .ok q)
    (n : Node) : FailsOnly (QueryError.LiesIn expression) (q.selectFirst? n) :=
  (Query.failsOnly_select h n).bind fun _ _ => failsOnly_ok _

end Errors

/-- Reading an expression always goes on, and errors point into the expression.  Every round of
reading tokens goes on from a shorter text, and the parser goes on behind a token in every round of
a loop and whenever it comes back to one of its routines.  An error lies in the expression, whether
it comes from reading or from asking for the value or the nodes at any node. -/
theorem reading_progresses (expression : String) :
    Loops (fun x => x.2.2.length) lexRound (fun x => lexFrom x.1 x.2.1 x.2.2) ∧
    Parser.Progresses ∧
    (∀ e, Query.compile expression = .error e → e.LiesIn expression) ∧
    ∀ q, Query.compile expression = .ok q → ∀ (n : Node) (e : QueryError),
      (q.evaluate n = .error e ∨ q.select n = .error e ∨ q.selectFirst? n = .error e) →
        e.LiesIn expression := by
  refine ⟨loops_lexFrom, Parser.progresses, fun e he => ?_, ?_⟩
  · cases hparse : Expr.parse expression with
    | error error =>
      rw [Query.compile, hparse] at he
      obtain rfl := Except.error.inj he
      exact liesIn_of_parse hparse
    | ok tree =>
      rw [Query.compile, hparse] at he
      cases he
  · rintro q hq n e (he | he | he)
    · exact Query.failsOnly_evaluate hq n e he
    · exact Query.failsOnly_select hq n e he
    · exact Query.failsOnly_selectFirst? hq n e he

/-- A bracket that is not closed is missed at the end, behind a character of two bytes, and a
variable behind such a character is not defined where it stands. -/
theorem reading_progresses_accents :
    (∃ e, Query.compile "'é'[" = .error e ∧ e.position = 5 ∧ e.LiesIn "'é'[") ∧
    ∃ q, Query.compile "'é'=$x" = .ok q ∧ ∀ n : Node,
      ∃ e, q.evaluate n = .error e ∧ e.position = 5 ∧ e.LiesIn "'é'=$x" := by
  have hfails : Query.compile "'é'[" = .error ⟨.unexpectedEnd, 5⟩ := by cbv
  have hcompiles : Query.compile "'é'=$x" =
      .ok ⟨"'é'=$x", .document, .binary .equal (.literal "é") (.variable "x" 5)⟩ := by cbv
  obtain ⟨-, -, hcompile, -⟩ := reading_progresses "'é'["
  obtain ⟨-, -, -, hvalue⟩ := reading_progresses "'é'=$x"
  refine ⟨⟨_, hfails, rfl, hcompile _ hfails⟩, _, hcompiles, fun n => ?_⟩
  have hvariable : Query.evaluate
      ⟨"'é'=$x", .document, .binary .equal (.literal "é") (.variable "x" 5)⟩ n =
        .error ⟨.undefinedVariable "x", 5⟩ := by
    simp [Query.evaluate, Expr.valueAt, Expr.eval, bind, Except.bind]
  exact ⟨_, hvariable, rfl, hvalue _ hcompiles n _ (.inl hvariable)⟩

end HtmlQuery
