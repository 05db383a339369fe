import HtmlQuery.Proofs.Query.Bytes
import HtmlQuery.Proofs.Query.Running
import HtmlQuery.Proofs.Query.Subexpression

/-!
# Errors point at what they name

Where no token can be read, the error is placed between two characters, and what it says is true of
those (`Fault.ShowsText`): a character that begins no token stands there, or behind that place a
literal begins that does not end.

The tokens that are left are always an end of those that the parser was given, so a state is a place
among these (`Later`).  Where the parser fails, it does so at such a place, and what it says is true
of the tokens around it (`Fault.Shows`): a token that cannot stand there does stand there, and a
parenthesis that is missed behind a name is not there behind that name.

`Points` says this of a program over the state, together with what the program reads if it does not
fail: expressions whose variables are tokens.  There is one rule for each shape of program, loops
are inductions over the number of tokens that are left, and the induction over the parser is on the
nesting that is left.
-/

namespace HtmlQuery

/-! ## Among characters -/

/-- What a fault says of the characters around the place where it is noticed, those before it and
those from there on. -/
def Fault.ShowsText (before behind : List Char) : Fault → Prop
  | .unexpectedCharacter c => behind.head? = some c
  | .loneExclamation => behind.head? = some '!'
  | .loneColon => behind.head? = some ':'
  | .unterminatedLiteral =>
    ∃ quote text, behind = quote :: text ∧ (quote = '"' ∨ quote = '\'') ∧ quote ∉ text
  | .missingVariableName =>
    before.getLast? = some '$' ∧ ∀ c ∈ behind.head?, beginsName c = false
  | _ => False

section Characters

variable {afterOperand : Bool} {c : Char} {cs front before behind : List Char} {fault : Fault}

/-- What is said of the characters before a place stays true if there are more of them in front. -/
theorem Fault.ShowsText.append (h : fault.ShowsText before behind) (front : List Char) :
    fault.ShowsText (front ++ before) behind := by
  cases fault with
  | missingVariableName =>
    refine ⟨?_, h.2⟩
    rw [List.getLast?_append, h.1]
    rfl
  | _ => exact h

/-- Where no token can be read, the fault says what stands there. -/
theorem showsText_of_scan {e : ScanError} (h : scan afterOperand c cs = .error e) :
    ∃ before behind, c :: cs = before ++ behind ∧ e.offset = byteLength before ∧
      e.fault.ShowsText before behind := by
  unfold scan at h
  split at h
  next => cases h
  split at h
  next hquote =>
    unfold scanLiteral at h
    dsimp only at h
    split at h
    next hrest =>
      obtain rfl := Except.error.inj h
      refine ⟨[], c :: cs, rfl, rfl, c, cs, rfl, by simpa using hquote, fun hmem => ?_⟩
      have hne := List.dropWhile_eq_nil_iff.mp hrest c hmem
      simp at hne
    next => cases h
  split at h
  next hdollar =>
    obtain rfl := beq_iff_eq.mp hdollar
    unfold scanVariable at h
    split at h
    next =>
      obtain rfl := Except.error.inj h
      exact ⟨['$'], [], rfl, rfl, rfl, fun _ hc => absurd hc (Option.not_mem_none _)⟩
    next d ds =>
      split at h
      next => cases h
      next hd =>
        obtain rfl := Except.error.inj h
        refine ⟨['$'], d :: ds, rfl, rfl, rfl, ?_⟩
        rintro _ ⟨⟩
        exact Bool.eq_false_iff.mpr hd
  split at h
  next => cases h
  split at h
  next => cases h
  -- What is left are characters on their own, at which nothing else begins.
  split at h
  all_goals try split at h
  all_goals cases h
  all_goals exact ⟨[], _, rfl, rfl, rfl⟩

/-- Where a text cannot be read, the fault says what stands there. -/
theorem showsText_of_lexFrom {position : Nat} {input : List Char} {e : QueryError}
    (h : lexFrom position afterOperand input = .error e) :
    ∃ before behind, input = before ++ behind ∧ e.position = position + byteLength before ∧
      e.fault.ShowsText before behind := by
  fun_induction lexFrom position afterOperand input with
  | case1 => cases h
  | case2 position afterOperand c cs hc ih =>
    obtain ⟨before, behind, rfl, hposition, hshows⟩ := ih h
    refine ⟨c :: before, behind, rfl, ?_, hshows.append [c]⟩
    rw [hposition, byteLength_cons, Nat.add_assoc]
  | case3 position afterOperand c cs hc error herror =>
    obtain rfl := Except.error.inj h
    obtain ⟨before, behind, htext, hoffset, hshows⟩ := showsText_of_scan herror
    exact ⟨before, behind, htext, congrArg (position + ·) hoffset, hshows⟩
  | case4 position afterOperand c cs hc s hs error herror ih =>
    obtain rfl := Except.error.inj h
    obtain ⟨before, behind, htext, hposition, hshows⟩ := ih herror
    refine ⟨s.front ++ before, behind, ?_, ?_, hshows.append s.front⟩
    · rw [List.append_assoc, ← htext, s.append_eq]
    · rw [hposition, byteLength_append, Nat.add_assoc]
  | case5 => cases h

end Characters

/-! ## Among tokens -/

/-- What a fault of the parser says of the tokens around the place where it is noticed, those read
before it and those from there on. -/
def Fault.Shows (read left : List Token) : Fault → Prop
  | .unexpectedToken token => left.head? = some token
  | .unexpectedEnd => left = []
  | .notANodeTest token => left.head? = some token
  | .unknownFunction name => left.head? = some (.function name)
  | .unknownAxis name => left.head? = some (.axis name)
  | .missingParenthesis name =>
    (read.getLast? = some (.function name) ∨ read.getLast? = some (.nodeType name)) ∧
      left.head? ≠ some (.symbol .leftParen)
  | .missingColons =>
    (∃ name, read.getLast? = some (.axis name)) ∧ left.head? ≠ some (.symbol .colonColon)
  | .unboundPrefix name => left.head? = some (.name name) ∧ name.toList.contains ':' = true
  | .wrongArity name _ => left.head? = some (.function name)
  | .unclosedPredicate => left.head? ≠ some (.symbol .rightBracket)
  | .unclosedParenthesis => left.head? ≠ some (.symbol .rightParen)
  | .tooDeep | .tooManyOperators => True
  | _ => False

/-- All variables of an expression are among some tokens, where they say that they stand. -/
def Expr.NamedBy (tokens : List Located) (e : Expr) : Prop :=
  ∀ p ∈ e.parts, ∀ name position, p = .variable name position →
    ⟨.variable name, position⟩ ∈ tokens

section Variables

variable {tokens : List Located} {e l r : Expr} {es : List Expr} {ss : List Step}

/-- A variable is named by its own token. -/
theorem Expr.namedBy_variable {name : String} {position : Nat}
    (h : ⟨.variable name, position⟩ ∈ tokens) : (Expr.variable name position).NamedBy tokens := by
  refine forall_parts.mpr ⟨?_, fun c hc => absurd hc List.not_mem_nil⟩
  rintro _ _ ⟨⟩
  exact h

/-- What is no variable has those of its children. -/
theorem Expr.namedBy_of_children (hv : ∀ name position, e ≠ .variable name position)
    (h : ∀ c ∈ e.children, c.NamedBy tokens) : e.NamedBy tokens :=
  forall_parts.mpr ⟨fun name position he => absurd he (hv name position), h⟩

theorem Expr.namedBy_binary (op : BinaryOp) (hl : l.NamedBy tokens) (hr : r.NamedBy tokens) :
    (Expr.binary op l r).NamedBy tokens :=
  namedBy_of_children (by simp) (List.forall_mem_cons.mpr ⟨hl, List.forall_mem_singleton.mpr hr⟩)

theorem Expr.namedBy_union (hl : l.NamedBy tokens) (hr : r.NamedBy tokens) :
    (Expr.union l r).NamedBy tokens :=
  namedBy_of_children (by simp) (List.forall_mem_cons.mpr ⟨hl, List.forall_mem_singleton.mpr hr⟩)

end Variables

namespace Parser

/-- A state comes after another one: its tokens are the last ones of the other. -/
structure Later (s t : State) : Prop where
  /-- Tokens are read one by one. -/
  suffix : t.tokens <:+ s.tokens
  /-- The expression ends where it did. -/
  finish_eq : t.finish = s.finish

theorem Later.refl (s : State) : Later s s :=
  ⟨List.suffix_refl _, rfl⟩

theorem Later.trans {s t u : State} (h : Later s t) (h' : Later t u) : Later s u :=
  ⟨h'.suffix.trans h.suffix, h'.finish_eq.trans h.finish_eq⟩

theorem Later.length_le {s t : State} (h : Later s t) : t.tokens.length ≤ s.tokens.length :=
  h.suffix.length_le

theorem later_of_cons {s : State} {first : Located} {rest : List Located}
    (h : s.tokens = first :: rest) :
    rest.length < s.tokens.length ∧ Later s { s with tokens := rest } := by
  rw [h]
  exact ⟨Nat.lt_succ_self _, h ▸ List.suffix_cons first rest, rfl⟩

/-- Behind a symbol that was skipped, a state is a later one. -/
theorem later_of_skip? {symbol : Symbol} {s t : State} (h : skip? symbol s = some t) :
    t.tokens.length < s.tokens.length ∧ Later s t := by
  obtain ⟨position, rest, hs, rfl⟩ := skip?_eq_some_iff.mp h
  exact later_of_cons hs

/-- An error is placed at a state that comes after the start, and its fault says what stands around
that place. -/
def PointsInto (start : State) (e : QueryError) : Prop :=
  ∃ (read : List Located) (s : State), read ++ s.tokens = start.tokens ∧
    s.finish = start.finish ∧ e.position = s.position ∧
    e.fault.Shows (read.map (·.token)) (s.tokens.map (·.token))

/-- An outcome at `s` is a value of some kind and a later state, or an error that points into what
stands from the start on. -/
structure Sound {α : Type} (start s : State) (outcome : Except QueryError (α × State))
    (P : α → Prop) : Prop where
  ok : ∀ v t, outcome = .ok (v, t) → P v ∧ Later s t
  error : ∀ e, outcome = .error e → PointsInto start e

/-- A program has such outcomes where at most so many tokens are left. -/
def Points {α : Type} (start : State) (bound : Nat) (x : Run α) (P : α → Prop) : Prop :=
  ∀ s, Later start s → s.tokens.length ≤ bound → Sound start s (x s) P

section Rules

variable {α β : Type} {start s s' t : State} {bound : Nat} {x y : Run α} {f : α → Run β} {v : α}
  {outcome : Except QueryError (α × State)} {P P' : α → Prop} {Q : β → Prop} {symbol : Symbol}
  {fault : Fault}

theorem Sound.of_ok (h : P v) (ht : Later s t) : Sound start s (.ok (v, t)) P where
  ok := by
    rintro _ _ ⟨⟩
    exact ⟨h, ht⟩
  error := nofun

/-- A failure at a state that comes after the start, whatever was read before. -/
theorem Sound.of_error (hs : Later start s')
    (h : ∀ read, fault.Shows read (s'.tokens.map (·.token))) :
    Sound start s (.error ⟨fault, s'.position⟩) P where
  ok := nofun
  error := by
    rintro _ ⟨⟩
    obtain ⟨read, hread⟩ := hs.suffix
    exact ⟨read, s', hread, hs.finish_eq, rfl, h _⟩

/-- A failure where the parser stands says what stands there. -/
theorem Sound.fail (hs : Later start s) (h : ∀ read, fault.Shows read (s.tokens.map (·.token))) :
    Sound start s (s.fail fault) P :=
  .of_error hs h

/-- The expression ends where it has to go on. -/
theorem Sound.unexpectedEnd (hs : Later start s) (h : s.tokens = []) :
    Sound start s (.error ⟨.unexpectedEnd, s.finish⟩) P := by
  have hposition : s.finish = s.position := by rw [State.position, h]
  rw [hposition]
  refine .of_error hs fun _ => ?_
  rw [h]
  rfl

theorem Sound.of_later (hs : Later s s') (h : Sound start s' outcome P) :
    Sound start s outcome P where
  ok v t hv := ⟨(h.ok v t hv).1, hs.trans (h.ok v t hv).2⟩
  error := h.error

/-- Two programs in a row fail where one of them fails. -/
theorem Sound.bind (h : Sound start s (x s) P)
    (h' : ∀ v t, P v → Later s t → Sound start t (f v t) Q) :
    Sound start s ((x >>= f) s) Q := by
  cases hx : x s with
  | error e =>
    have hbind : (x >>= f) s = .error e := by
      show (x s >>= _) = _
      rw [hx]
      rfl
    rw [hbind]
    refine ⟨nofun, ?_⟩
    rintro _ ⟨⟩
    exact h.error e hx
  | ok r =>
    obtain ⟨v, t⟩ := r
    obtain ⟨hv, ht⟩ := h.ok v t hx
    rw [run_bind_of_ok hx]
    exact .of_later ht (h' v t hv ht)

/-- What is read behind a token. -/
theorem Sound.behind (hs : Later start s) (h : s'.tokens.length < s.tokens.length ∧ Later s s')
    (hbound : s.tokens.length ≤ bound) (hy : ∀ b < bound, Points start b y P) :
    Sound start s (y s') P :=
  .of_later h.2 (hy _ (h.1.trans_le hbound) s' (hs.trans h.2) le_rfl)

theorem Points.imp (h : Points start bound x P) (hP : ∀ v, P v → P' v) :
    Points start bound x P' := fun s hs hbound =>
  ⟨fun v t hv => ((h s hs hbound).ok v t hv).imp_left (hP v), (h s hs hbound).error⟩

theorem Points.pure (h : P v) : Points start bound (pure v) P :=
  fun s _ _ => .of_ok h (.refl s)

theorem Points.bind (h : Points start bound x P) (h' : ∀ v, P v → Points start bound (f v) Q) :
    Points start bound (x >>= f) Q := fun s hs hbound =>
  (h s hs hbound).bind fun v t hv ht =>
    h' v hv t (hs.trans ht) (ht.length_le.trans hbound)

theorem Points.map {g : α → β} (h : Points start bound x P) (hQ : ∀ v, P v → Q (g v)) :
    Points start bound (x >>= fun v => Pure.pure (g v)) Q :=
  h.bind fun v hv => .pure (hQ v hv)

/-- No symbol comes next that a program does not skip. -/
theorem head?_ne_of_skip?_none (h : skip? symbol s = none) :
    (s.tokens.map (·.token)).head? ≠ some (.symbol symbol) := by
  obtain ⟨tokens, operators, finish⟩ := s
  match tokens with
  | [] => nofun
  | ⟨token, position⟩ :: rest =>
    rintro htoken
    obtain rfl : token = .symbol symbol := Option.some.inj htoken
    rw [skip?_cons_self] at h
    cases h

/-- A symbol that has to come next, and a fault that says no more than that it does not. -/
theorem points_expect
    (h : ∀ read left, left.head? ≠ some (.symbol symbol) → fault.Shows read left) :
    Points start bound (run (expect symbol fault)) fun _ => True := by
  intro s hs _
  rw [run_expect]
  split
  next t hskip => exact .of_ok trivial (later_of_skip? hskip).2
  next hskip => exact .fail hs fun read => h read _ (head?_ne_of_skip?_none hskip)

/-- A symbol that has to come next behind a token, and a fault that says of which token. -/
theorem sound_expect_behind {first : Located} {rest : List Located} (hs : Later start s)
    (htokens : s.tokens = first :: rest)
    (h : ∀ read left, read.getLast? = some first.token → left.head? ≠ some (.symbol symbol) →
      fault.Shows read left) :
    Sound start { s with tokens := rest } (run (expect symbol fault) { s with tokens := rest })
      fun _ => True := by
  rw [run_expect]
  split
  next t hskip => exact .of_ok trivial (later_of_skip? hskip).2
  next hskip =>
    refine ⟨nofun, ?_⟩
    rintro _ ⟨⟩
    obtain ⟨read, hread⟩ := hs.suffix
    refine ⟨read ++ [first], { s with tokens := rest }, ?_, hs.finish_eq, rfl, ?_⟩
    · rw [← hread, htokens, List.append_assoc, List.singleton_append]
    · refine h _ _ ?_ (head?_ne_of_skip?_none hskip)
      rw [List.map_append, List.map_singleton, List.getLast?_concat]

/-- What is read before a closing symbol. -/
theorem Points.closed (h : Points start bound x P)
    (hfault : ∀ read left, left.head? ≠ some (.symbol symbol) → fault.Shows read left)
    (h' : ∀ v, P v → Points start bound (f v) Q) :
    Points start bound (do let v ← x; let _ ← run (expect symbol fault); f v) Q :=
  h.bind fun v hv => (points_expect hfault).bind fun _ _ => h' v hv

/-- That there are too many operators says nothing of the tokens around it. -/
theorem points_count : Points start bound count fun _ => True := by
  intro s hs _
  rw [count, countOperator]
  split
  next => exact .fail hs fun _ => trivial
  next => exact .of_ok trivial ⟨List.suffix_refl _, rfl⟩

end Rules

/-! ## Parts of a path -/

/-- A parser fails where it says, and reads expressions whose variables are tokens. -/
def Faithful (start : State) (expr : Parse Expr) : Prop :=
  ∀ bound, Points start bound (run expr) (Expr.NamedBy start.tokens)

section Parts

variable {start : State} {bound : Nat} {expr : Parse Expr}

/-- A bracket that is not closed is missed where the predicate ends. -/
theorem Faithful.predicates (h : Faithful start expr) :
    Points start bound (run (predicates expr)) fun es =>
      ∀ e ∈ es, e.NamedBy start.tokens := by
  induction bound using Nat.strong_induction_on with
  | _ bound ih =>
    intro s hs hbound
    rw [run_predicates]
    split
    next => exact .of_ok (List.forall_mem_nil _) (.refl s)
    next t hskip =>
      refine .behind hs (later_of_skip? hskip) hbound fun b hb => ?_
      exact (h b).closed (fun _ _ => id) fun e he => (ih b hb).map fun es hes =>
        List.forall_mem_cons.mpr ⟨he, hes⟩

theorem points_instructionTarget (name : String) :
    Points start bound (run (instructionTarget name)) fun _ => True := by
  intro s hs _
  rw [run_instructionTarget]
  split
  next target position rest htokens =>
    split
    · exact .of_ok trivial (later_of_cons htokens).2
    · exact .of_ok trivial (.refl s)
  next => exact .of_ok trivial (.refl s)

/-- A test fails at the token that is none, and at the name whose prefix is unbound. -/
theorem points_nodeTest : Points start bound (run nodeTest) fun _ => True := by
  intro s hs hbound
  rw [run_nodeTest]
  split
  next htokens => exact .unexpectedEnd hs htokens
  next name position rest htokens =>
    split
    next => exact .of_ok trivial (later_of_cons htokens).2
    next =>
      split
      next hcolon => exact .fail hs fun _ => ⟨by rw [htokens]; rfl, hcolon⟩
      next => exact .of_ok trivial (later_of_cons htokens).2
  next name position rest htokens =>
    have hlater := (later_of_cons htokens).2
    refine .of_later hlater (.bind (sound_expect_behind hs htokens ?_) fun _ t _ ht => ?_)
    · exact fun _ _ hread hleft => ⟨.inr hread, hleft⟩
    · have hinside : Points start t.tokens.length (do
          let target ← run (instructionTarget name)
          let _ ← run (expect .rightParen .unclosedParenthesis)
          return nodeTypeTest name target) fun _ => True :=
        (points_instructionTarget name).closed (fun _ _ => id) fun _ _ => .pure trivial
      exact hinside t ((hs.trans hlater).trans ht) le_rfl
  next htokens => exact .fail hs fun _ => by rw [htokens]; rfl

/-- An axis fails at a name that is no axis, or behind a name where the colons are missing. -/
theorem points_stepAxis : Points start bound (run stepAxis) fun _ => True := by
  intro s hs hbound
  rw [run_stepAxis]
  split
  next position rest htokens => exact .of_ok trivial (later_of_cons htokens).2
  next name position rest htokens =>
    split
    next => exact .fail hs fun _ => by rw [htokens]; rfl
    next axis _ =>
      refine .of_later (later_of_cons htokens).2
        (.bind (sound_expect_behind hs htokens ?_) fun _ t _ _ => .of_ok trivial (.refl t))
      exact fun _ _ hread hleft => ⟨⟨name, hread⟩, hleft⟩
  next => exact .of_ok trivial (.refl s)

theorem Faithful.step (h : Faithful start expr) :
    Points start bound (run (step expr)) fun s => ∀ e ∈ s.predicates, e.NamedBy start.tokens := by
  intro s hs hbound
  rw [run_step]
  split
  next t _ hskip => exact .of_ok (List.forall_mem_nil _) (later_of_skip? hskip).2
  next t _ hskip => exact .of_ok (List.forall_mem_nil _) (later_of_skip? hskip).2
  next =>
    refine points_stepAxis.bind (fun axis _ => ?_) s hs hbound
    exact points_nodeTest.bind fun test _ => h.predicates.map fun _ => id

/-- The variables in the predicates of steps are tokens. -/
def StepsNamedBy (tokens : List Located) (ss : List Step) : Prop :=
  ∀ e ∈ ss.flatMap Step.predicates, e.NamedBy tokens

theorem StepsNamedBy.cons {tokens : List Located} {s : Step} {ss : List Step}
    (h : ∀ e ∈ s.predicates, e.NamedBy tokens) (h' : StepsNamedBy tokens ss) :
    StepsNamedBy tokens (s :: ss) := by
  intro e he
  rw [List.flatMap_cons, List.mem_append] at he
  exact he.elim (h e) (h' e)

theorem StepsNamedBy.descendantOrSelf {tokens : List Located} {ss : List Step}
    (h : StepsNamedBy tokens ss) : StepsNamedBy tokens (.descendantOrSelf :: ss) :=
  .cons (List.forall_mem_nil _) h

theorem Faithful.steps (h : Faithful start expr) :
    Points start bound (run (steps expr)) (StepsNamedBy start.tokens) := by
  induction bound using Nat.strong_induction_on with
  | _ bound ih =>
    rw [run_steps]
    refine h.step.bind fun first hfirst s hs hbound => ?_
    rw [stepsAfter]
    split
    next t _ hskip =>
      exact .behind hs (later_of_skip? hskip) hbound fun b hb => (ih b hb).map fun ss hss =>
        .cons hfirst hss
    next t _ hskip =>
      exact .behind hs (later_of_skip? hskip) hbound fun b hb => (ih b hb).map fun ss hss =>
        .cons hfirst hss.descendantOrSelf
    next => exact .of_ok (.cons hfirst (List.forall_mem_nil _)) (.refl s)

theorem Faithful.stepsBehind (h : Faithful start expr) :
    Points start bound (run (stepsBehind expr)) (StepsNamedBy start.tokens) := by
  intro s hs hbound
  rw [run_stepsBehind]
  split
  next t _ hskip => exact .behind hs (later_of_skip? hskip) hbound fun b _ => h.steps
  next t _ hskip =>
    exact .behind hs (later_of_skip? hskip) hbound fun b _ => h.steps.map fun _ hss =>
      hss.descendantOrSelf
  next => exact .of_ok (List.forall_mem_nil _) (.refl s)

theorem Faithful.argumentList (h : Faithful start expr) :
    Points start bound (run (argumentList expr)) fun es => ∀ e ∈ es, e.NamedBy start.tokens := by
  induction bound using Nat.strong_induction_on with
  | _ bound ih =>
    rw [run_argumentList]
    refine (h bound).bind fun first hfirst s hs hbound => ?_
    rw [argumentsAfter]
    split
    next t hskip =>
      exact .behind hs (later_of_skip? hskip) hbound fun b hb => (ih b hb).map fun es hes =>
        List.forall_mem_cons.mpr ⟨hfirst, hes⟩
    next => exact .of_ok (List.forall_mem_singleton.mpr hfirst) (.refl s)

theorem Faithful.argumentsInside (h : Faithful start expr) :
    Points start bound (argumentsInside expr) fun es => ∀ e ∈ es, e.NamedBy start.tokens := by
  intro s hs hbound
  rw [Parser.argumentsInside]
  split
  next t hskip => exact .of_ok (List.forall_mem_nil _) (later_of_skip? hskip).2
  next => exact h.argumentList.closed (fun _ _ => id) (fun es hes => .pure hes) s hs hbound

end Parts

/-! ## Operands -/

section Operands

variable {start : State} {bound : Nat} {expr : Parse Expr}

/-- A function that is unknown, or has too many arguments or too few, is reported at its name. -/
theorem Faithful.primary (h : Faithful start expr) : Faithful start (primary expr) := by
  intro bound s hs hbound
  rw [run_primary]
  split
  next htokens => exact .unexpectedEnd hs htokens
  next name position rest htokens =>
    refine .of_ok (Expr.namedBy_variable ?_) (later_of_cons htokens).2
    exact hs.suffix.subset (htokens ▸ List.mem_cons_self)
  next text position rest htokens =>
    exact .of_ok (Expr.namedBy_of_children (by simp) (List.forall_mem_nil _))
      (later_of_cons htokens).2
  next value position rest htokens =>
    exact .of_ok (Expr.namedBy_of_children (by simp) (List.forall_mem_nil _))
      (later_of_cons htokens).2
  next position rest htokens =>
    exact .behind hs (later_of_cons htokens) hbound fun b _ =>
      (h b).closed (fun _ _ => id) fun e he => .pure he
  next name position rest htokens =>
    split
    next => exact .fail hs fun _ => by rw [htokens]; rfl
    next function _ =>
      -- Too few or too many arguments are noticed at the name, where `s` is.
      have hcall : ∀ es : List Expr, (∀ e ∈ es, e.NamedBy start.tokens) → ∀ t,
          Sound start t (callOf function name position es t) (Expr.NamedBy start.tokens) := by
        intro es hes t
        unfold callOf
        split
        · exact .of_ok (Expr.namedBy_of_children (by simp) hes) (.refl t)
        · have hposition : position = s.position := by rw [State.position, htokens]
          rw [hposition]
          exact .of_error hs fun _ => by rw [htokens]; rfl
      have hlater := (later_of_cons htokens).2
      refine .of_later hlater (.bind (P := fun es => ∀ e ∈ es, e.NamedBy start.tokens) ?_
        fun es t hes _ => hcall es hes t)
      rw [run_arguments]
      refine .bind (sound_expect_behind hs htokens ?_) fun _ t _ ht => ?_
      · exact fun _ _ hread hleft => ⟨.inl hread, hleft⟩
      · exact h.argumentsInside t ((hs.trans hlater).trans ht) le_rfl
  next htokens => exact .fail hs fun _ => by rw [htokens]; rfl

/-- Predicates and steps bring the variables that they have themselves. -/
theorem namedBy_withFilter {tokens : List Located} {e : Expr} {es : List Expr} {ss : List Step}
    (he : e.NamedBy tokens) (hes : ∀ e ∈ es, e.NamedBy tokens) (hss : StepsNamedBy tokens ss) :
    (withFilter e es ss).NamedBy tokens := by
  by_cases hne : es ≠ [] ∨ ss ≠ []
  · rw [withFilter_of_ne hne]
    refine Expr.namedBy_of_children (by simp) fun c hc => ?_
    simp only [Expr.children, List.cons_append, List.mem_cons, List.mem_append] at hc
    rcases hc with rfl | hc | hc
    · exact he
    · exact hes c hc
    · exact hss c hc
  · simp only [ne_eq, not_or, not_not] at hne
    obtain ⟨rfl, rfl⟩ := hne
    exact he

theorem Faithful.filtered (h : Faithful start expr) : Faithful start (filtered expr) := by
  intro bound
  rw [run_filtered]
  exact (h.primary bound).bind fun e he => h.predicates.bind fun es hes =>
    h.stepsBehind.map fun ss hss => namedBy_withFilter he hes hss

theorem namedBy_path {tokens : List Located} {absolute : Bool} {ss : List Step}
    (h : StepsNamedBy tokens ss) : (Expr.path absolute ss).NamedBy tokens :=
  Expr.namedBy_of_children (by simp) h

theorem Faithful.pathOf (h : Faithful start expr) (absolute : Bool) :
    Points start bound (pathOf expr absolute) (Expr.NamedBy start.tokens) :=
  h.steps.map fun _ => namedBy_path

theorem Faithful.parsePath (h : Faithful start expr) : Faithful start (parsePath expr) := by
  intro bound s hs hbound
  rw [run_parsePath]
  split
  next => exact h.filtered bound s hs hbound
  next =>
    split
    next t _ hskip =>
      split
      next => exact .behind hs (later_of_skip? hskip) hbound fun b _ => h.pathOf true
      next => exact .of_ok (namedBy_path (List.forall_mem_nil _)) (later_of_skip? hskip).2
    next t _ hskip =>
      exact .behind hs (later_of_skip? hskip) hbound fun b _ => h.steps.map fun _ hss =>
        namedBy_path hss.descendantOrSelf
    next => exact h.pathOf false s hs hbound

end Operands

/-! ## Chains and whole expressions -/

section Whole

variable {start : State} {bound : Nat} {whole operand : Parse Expr}
  {join : Symbol → Option (Expr → Expr → Expr)} {goOn : Expr → Parse Expr}

theorem later_of_next? {s t : State} {f : Expr → Expr → Expr} (h : next? join s = some (f, t)) :
    ∃ found, join found = some f ∧ t.tokens.length < s.tokens.length ∧ Later s t := by
  unfold next? at h
  split at h
  next found position rest htokens =>
    obtain ⟨f', hf, he⟩ := Option.map_eq_some_iff.mp h
    cases he
    exact ⟨found, hf, later_of_cons htokens⟩
  next => cases h

/-- What a symbol makes of two operands has no variables of its own. -/
def JoinsNames (join : Symbol → Option (Expr → Expr → Expr)) : Prop :=
  ∀ found f, join found = some f → ∀ (tokens : List Located) (l r : Expr),
    l.NamedBy tokens → r.NamedBy tokens → (f l r).NamedBy tokens

theorem joinsNames_joinLevel (level : Symbol → Option BinaryOp) :
    JoinsNames (joinLevel level) := by
  intro found f hf tokens l r hl hr
  obtain ⟨op, -, rfl⟩ := Option.map_eq_some_iff.mp hf
  exact Expr.namedBy_binary op hl hr

theorem joinsNames_joinUnion : JoinsNames joinUnion := by
  intro found f hf tokens l r hl hr
  obtain ⟨-, hf⟩ := Option.ite_none_right_eq_some.mp hf
  cases hf
  exact Expr.namedBy_union hl hr

/-- A loop keeps the variables of what it has joined so far. -/
theorem Chains.points_goOn (hc : Chains whole operand join goOn) (hj : JoinsNames join)
    (h : Faithful start operand) {left : Expr} (hl : left.NamedBy start.tokens) :
    Points start bound (run (goOn left)) (Expr.NamedBy start.tokens) := by
  induction bound using Nat.strong_induction_on generalizing left with
  | _ bound ih =>
    intro s hs hbound
    rw [hc.run_goOn]
    split
    next => exact .of_ok hl (.refl s)
    next f t hnext =>
      obtain ⟨found, hf, hlater⟩ := later_of_next? hnext
      refine .behind hs hlater hbound fun b hb => ?_
      exact points_count.bind fun _ _ => (h b).bind fun right hr =>
        ih b hb (hj found f hf start.tokens left right hl hr)

theorem Faithful.chains (h : Faithful start operand) (hc : Chains whole operand join goOn)
    (hj : JoinsNames join) : Faithful start whole := by
  intro bound
  rw [hc.run_whole]
  exact (h bound).bind fun left hl => hc.points_goOn hj h hl

theorem Faithful.parseLevels (h : Faithful start operand) :
    Faithful start (parseLevels operand) := by
  have hchain : ∀ {operand : Parse Expr} (level : Symbol → Option BinaryOp),
      Faithful start operand → Faithful start (chain level operand) := fun level h =>
    h.chains (chains_chain level _) (joinsNames_joinLevel level)
  exact hchain orLevel <| hchain andLevel <| hchain equalityLevel <| hchain orderLevel <|
    hchain sumLevel <| hchain productLevel h

/-- The parser fails where it says, and reads expressions whose variables are tokens. -/
theorem faithful_parse (start : State) (depth : Nat) :
    Faithful start (parseOr depth) ∧ Faithful start (parseUnary depth) := by
  induction depth with
  | zero =>
    constructor
    · intro bound s hs _
      rw [run, parseOr]
      exact .fail hs fun _ => trivial
    · intro bound s hs _
      rw [run, parseUnary]
      exact .fail hs fun _ => trivial
  | succ depth ih =>
    constructor
    · rw [parseOr]
      exact ih.2.parseLevels
    · intro bound s hs hbound
      rw [run_parseUnary]
      cases hskip : skip? .minus s with
      | some t =>
        refine .behind hs (later_of_skip? hskip) hbound fun b _ => (ih.2 b).map fun e he => ?_
        exact Expr.namedBy_of_children (by simp) (List.forall_mem_singleton.mpr he)
      | none =>
        exact ih.1.parsePath.chains (chains_unions _) joinsNames_joinUnion bound s hs hbound

end Whole

end Parser

/-! ## Whole expressions -/

/-- What is read from tokens has its variables among them.  Where nothing is read, there is no token
at all, or the error points at a place among them. -/
theorem Expr.ofTokens_points (tokens : List Located) (finish : Nat) :
    (∀ e, Expr.ofTokens tokens finish = .ok e → e.NamedBy tokens) ∧
      ∀ error, Expr.ofTokens tokens finish = .error error →
        (tokens = [] ∧ error = ⟨.emptyExpression, 0⟩) ∨
          Parser.PointsInto ⟨tokens, 0, finish⟩ error := by
  by_cases hne : tokens = []
  · subst hne
    refine ⟨nofun, ?_⟩
    rintro _ ⟨⟩
    exact .inl ⟨rfl, rfl⟩
  · have hsound := (Parser.faithful_parse ⟨tokens, 0, finish⟩ maxDepth).1 _ _ (.refl _) le_rfl
    rw [Expr.ofTokens_eq hne]
    cases hrun : Parser.run (Parser.parseOr maxDepth) ⟨tokens, 0, finish⟩ with
    | error e =>
      refine ⟨nofun, ?_⟩
      rintro _ ⟨⟩
      exact .inr (hsound.error e hrun)
    | ok r =>
      obtain ⟨v, t⟩ := r
      obtain ⟨hv, hlater⟩ := hsound.ok v t hrun
      show (∀ e, Parser.ended (v, t) = .ok e → _) ∧ ∀ error, Parser.ended (v, t) = .error error → _
      unfold Parser.ended
      split
      next =>
        refine ⟨?_, nofun⟩
        rintro _ ⟨⟩
        exact hv
      next extra rest hrest =>
        refine ⟨nofun, ?_⟩
        rintro _ ⟨⟩
        obtain ⟨read, hread⟩ := hlater.suffix
        replace hrest : t.tokens = extra :: rest := hrest
        refine .inr ⟨read, t, hread, hlater.finish_eq, ?_, ?_⟩
        · rw [Parser.State.position, hrest]
        · rw [hrest]
          rfl

/-- Where an expression is not read, the error points at characters or, if there are tokens, at a
place among these. -/
theorem Expr.parse_points {expression : String} {e : QueryError}
    (h : Expr.parse expression = .error e) :
    (∃ before behind, expression.toList = before ++ behind ∧ e.position = byteLength before ∧
      e.fault.ShowsText before behind) ∨
    ∃ tokens, tokenize expression = .ok tokens ∧ ((tokens = [] ∧ e = ⟨.emptyExpression, 0⟩) ∨
      Parser.PointsInto ⟨tokens, 0, expression.utf8ByteSize⟩ e) := by
  cases htokens : tokenize expression with
  | error error =>
    have hsame : Expr.parse expression = .error error := by
      rw [Expr.parse, htokens]
      rfl
    obtain rfl := Except.error.inj (hsame.symm.trans h)
    obtain ⟨before, behind, htext, hposition, hshows⟩ := showsText_of_lexFrom htokens
    exact .inl ⟨before, behind, htext, hposition.trans (Nat.zero_add _), hshows⟩
  | ok tokens =>
    rw [Expr.parse, htokens, ok_bind] at h
    exact .inr ⟨tokens, rfl, (Expr.ofTokens_points tokens _).2 e h⟩

end HtmlQuery
