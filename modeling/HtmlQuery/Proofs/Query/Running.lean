import HtmlQuery.Proofs.Query.Evaluation
import HtmlQuery.Query.Parser

/-!
# How the parser runs

The readings of the parser carry the proof that they give no token back, which its loops need to
end.  `run` forgets these proofs, so that parsers become programs over a state that may fail, and
every function of the parser has the equation that it runs by.  From here on nothing else is
unfolded.

Chains of operators and chains of unions are loops of one kind (`Chains`): they differ in what the
symbol between two operands makes of them.
-/

namespace HtmlQuery

namespace Parser

/-- A program over the state of the parser. -/
abbrev Run (α : Type) : Type :=
  StateT State (Except QueryError) α

/-- What a parser reads and leaves. -/
def run {α : Type} (parse : Parse α) : Run α := fun s =>
  (parse s).map fun r => (r.value, r.rest)

/-- Two programs in a row succeed exactly if the first one does and the second one does behind it.
-/
theorem run_bind_eq_ok {α β : Type} {x : Run α} {f : α → Run β} {s : State} {r : β × State} :
    (x >>= f) s = .ok r ↔ ∃ q, x s = .ok q ∧ f q.1 q.2 = .ok r :=
  bind_eq_ok

theorem run_bind_of_ok {α β : Type} {x : Run α} {f : α → Run β} {s t : State} {a : α}
    (h : x s = .ok (a, t)) : (x >>= f) s = f a t := by
  show (x s >>= _) = _
  rw [h]
  rfl

/-- The state behind the next token if that token is a given symbol. -/
def skip? (symbol : Symbol) (s : State) : Option State :=
  (eat? symbol s).map Subtype.val

section Next

variable {symbol : Symbol} {s t : State}

/-- A symbol is skipped exactly if it is the next token, and then the tokens behind it are left. -/
theorem skip?_eq_some_iff :
    skip? symbol s = some t ↔
      ∃ position rest, s.tokens = ⟨.symbol symbol, position⟩ :: rest ∧
        t = { s with tokens := rest } := by
  obtain ⟨tokens, operators, finish⟩ := s
  match tokens with
  | [] => simp [skip?, eat?]
  | ⟨.symbol found, position⟩ :: rest =>
    rw [skip?, eat?]
    dsimp only
    split
    next h => simp [h, eq_comm]
    next h => simp [h]
  | ⟨.number _, _⟩ :: _ | ⟨.literal _, _⟩ :: _ | ⟨.name _, _⟩ :: _ | ⟨.variable _, _⟩ :: _
  | ⟨.function _, _⟩ :: _ | ⟨.nodeType _, _⟩ :: _ | ⟨.axis _, _⟩ :: _ => simp [skip?, eat?]

theorem skip?_cons_self {position operators finish : Nat} {rest : List Located} :
    skip? symbol ⟨⟨.symbol symbol, position⟩ :: rest, operators, finish⟩ =
      some ⟨rest, operators, finish⟩ :=
  skip?_eq_some_iff.mpr ⟨position, rest, rfl, rfl⟩

/-- No symbol is skipped where another token stands or none is left. -/
theorem skip?_eq_none (h : ∀ t ∈ s.tokens.head?, t.token ≠ .symbol symbol) :
    skip? symbol s = none := by
  rw [Option.eq_none_iff_forall_ne_some]
  intro t ht
  obtain ⟨position, rest, htokens, -⟩ := skip?_eq_some_iff.mp ht
  rw [htokens] at h
  exact h _ rfl rfl

end Next

/-! ## Chains -/

/-- What the next token makes of two operands if it joins them, and the state behind it. -/
def next? (join : Symbol → Option (Expr → Expr → Expr)) (s : State) :
    Option ((Expr → Expr → Expr) × State) :=
  match s.tokens with
  | ⟨.symbol found, _⟩ :: rest => (join found).map fun f => (f, { s with tokens := rest })
  | _ => none

/-- Counts an operator. -/
def count : Run Unit := fun s =>
  (countOperator s).map fun t => ((), t.val)

/-- A loop that reads operands with symbols between them and joins them, to the left. -/
structure Chains (whole operand : Parse Expr) (join : Symbol → Option (Expr → Expr → Expr))
    (goOn : Expr → Parse Expr) : Prop where
  /-- It begins with an operand. -/
  run_whole : run whole = run operand >>= fun left => run (goOn left)
  /-- Then it goes on as long as a symbol joins one more operand. -/
  run_goOn : ∀ left s, run (goOn left) s =
    match next? join s with
    | none => .ok (left, s)
    | some (f, t) =>
      (do
        let _ ← count
        let right ← run operand
        run (goOn (f left right)) : Run Expr) t

/-- What the operators of a level make of their operands. -/
def joinLevel (level : Symbol → Option BinaryOp) (symbol : Symbol) :
    Option (Expr → Expr → Expr) :=
  (level symbol).map .binary

/-- What a bar makes of its operands. -/
def joinUnion (symbol : Symbol) : Option (Expr → Expr → Expr) :=
  if symbol = .pipe then some .union else none

theorem next?_joinLevel {level : Symbol → Option BinaryOp} {s : State} :
    next? (joinLevel level) s = (eatOperator? level s).map fun r => (.binary r.1, r.2.val) := by
  obtain ⟨tokens, operators, finish⟩ := s
  match tokens with
  | [] => rfl
  | ⟨.symbol found, _⟩ :: rest =>
    show ((level found).map Expr.binary).map _ = ((level found).map _).map _
    cases level found <;> rfl
  | ⟨.number _, _⟩ :: _ | ⟨.literal _, _⟩ :: _ | ⟨.name _, _⟩ :: _ | ⟨.variable _, _⟩ :: _
  | ⟨.function _, _⟩ :: _ | ⟨.nodeType _, _⟩ :: _ | ⟨.axis _, _⟩ :: _ => rfl

theorem next?_joinUnion {s : State} :
    next? joinUnion s = (eat? .pipe s).map fun r => (.union, r.val) := by
  obtain ⟨tokens, operators, finish⟩ := s
  match tokens with
  | [] => rfl
  | ⟨.symbol found, _⟩ :: rest =>
    simp only [next?, joinUnion, eat?]
    split <;> rfl
  | ⟨.number _, _⟩ :: _ | ⟨.literal _, _⟩ :: _ | ⟨.name _, _⟩ :: _ | ⟨.variable _, _⟩ :: _
  | ⟨.function _, _⟩ :: _ | ⟨.nodeType _, _⟩ :: _ | ⟨.axis _, _⟩ :: _ => rfl

/-- The operators of a level are read by one loop. -/
theorem chains_chain (level : Symbol → Option BinaryOp) (operand : Parse Expr) :
    Chains (chain level operand) operand (joinLevel level) (chainFrom level operand) where
  run_whole := by
    funext s
    simp only [run, chain, bind, StateT.bind]
    rcases operand s with _ | r
    · rfl
    · simp only [Except.bind, Except.map]
      rcases chainFrom level operand r.value r.rest with _ | _ <;> rfl
  run_goOn left s := by
    rw [run, chainFrom, next?_joinLevel]
    rcases eatOperator? level s with _ | ⟨op, behind, _⟩
    · rfl
    · simp only [run, count, Option.map_some, bind, StateT.bind]
      rcases countOperator behind with _ | ⟨counted, _⟩
      · rfl
      · simp only [Except.bind, Except.map]
        rcases operand counted with _ | ⟨right, rest, _⟩
        · rfl
        · simp only
          rcases chainFrom level operand (.binary op left right) rest with _ | _ <;> rfl

/-- The bars of a union are read by a loop of the same kind. -/
theorem chains_unions (operand : Parse Expr) :
    Chains (unions operand) operand joinUnion (unionFrom operand) where
  run_whole := by
    funext s
    simp only [run, unions, bind, StateT.bind]
    rcases operand s with _ | r
    · rfl
    · simp only [Except.bind, Except.map]
      rcases unionFrom operand r.value r.rest with _ | _ <;> rfl
  run_goOn left s := by
    rw [run, unionFrom, next?_joinUnion]
    rcases eat? .pipe s with _ | ⟨behind, _⟩
    · rfl
    · simp only [run, count, Option.map_some, bind, StateT.bind]
      rcases countOperator behind with _ | ⟨counted, _⟩
      · rfl
      · simp only [Except.bind, Except.map]
        rcases operand counted with _ | ⟨right, rest, _⟩
        · rfl
        · simp only
          rcases unionFrom operand (.union left right) rest with _ | _ <;> rfl

/-! ## Parts of a path -/

section Parts

variable {expr : Parse Expr} {s : State}

/-- A symbol that is wanted is skipped, and its absence is the fault. -/
theorem run_expect {symbol : Symbol} {fault : Fault} :
    run (expect symbol fault) s =
      match skip? symbol s with
      | some t => .ok ((), t)
      | none => s.fail fault := by
  rw [run, expect, skip?]
  rcases eat? symbol s with _ | _ <;> rfl

/-- Predicates are read as long as one more bracket opens. -/
theorem run_predicates :
    run (predicates expr) s =
      match skip? .leftBracket s with
      | none => .ok ([], s)
      | some t =>
        (do
          let e ← run expr
          let _ ← run (expect .rightBracket .unclosedPredicate)
          let es ← run (predicates expr)
          return e :: es : Run (List Expr)) t := by
  rw [run, predicates, skip?]
  rcases eat? .leftBracket s with _ | ⟨t, _⟩
  · rfl
  · simp only [run, Option.map_some, bind, StateT.bind]
    rcases expr t with _ | ⟨e, closing, _⟩
    · rfl
    · simp only [Except.bind, Except.map]
      rcases expect .rightBracket .unclosedPredicate closing with _ | ⟨_, behind, _⟩
      · rfl
      · simp only
        rcases predicates expr behind with _ | _ <;> rfl

theorem run_instructionTarget {name : String} :
    run (instructionTarget name) s =
      match s.tokens with
      | ⟨.literal target, _⟩ :: rest =>
        if name == "processing-instruction" then .ok (some target, { s with tokens := rest })
        else .ok (none, s)
      | _ => .ok (none, s) := by
  obtain ⟨tokens, operators, finish⟩ := s
  match tokens with
  | ⟨.literal target, _⟩ :: rest =>
    simp only [run, instructionTarget]
    split <;> rfl
  | [] | ⟨.symbol _, _⟩ :: _ | ⟨.number _, _⟩ :: _ | ⟨.name _, _⟩ :: _ | ⟨.variable _, _⟩ :: _
  | ⟨.function _, _⟩ :: _ | ⟨.nodeType _, _⟩ :: _ | ⟨.axis _, _⟩ :: _ => rfl

/-- A test is a name without a prefix, `*`, or the name of a node type with its parentheses. -/
theorem run_nodeTest :
    run nodeTest s =
      match s.tokens with
      | [] => .error ⟨.unexpectedEnd, s.finish⟩
      | ⟨.name name, _⟩ :: rest =>
        if name == "*" then .ok (.any, { s with tokens := rest })
        else if name.toList.contains ':' then s.fail (.unboundPrefix name)
        else .ok (.name name, { s with tokens := rest })
      | ⟨.nodeType name, _⟩ :: rest =>
        (do
          let _ ← run (expect .leftParen (.missingParenthesis name))
          let target ← run (instructionTarget name)
          let _ ← run (expect .rightParen .unclosedParenthesis)
          return nodeTypeTest name target : Run NodeTest) { s with tokens := rest }
      | ⟨token, _⟩ :: _ => s.fail (.notANodeTest token) := by
  obtain ⟨tokens, operators, finish⟩ := s
  match tokens with
  | ⟨.name name, _⟩ :: rest =>
    simp only [run, nodeTest]
    split
    · rfl
    · split <;> rfl
  | ⟨.nodeType name, _⟩ :: rest =>
    simp only [run, nodeTest, bind, StateT.bind]
    rcases expect .leftParen (.missingParenthesis name) ⟨rest, operators, finish⟩ with
      _ | ⟨_, inside, _⟩
    · rfl
    · simp only [Except.bind, Except.map]
      rcases instructionTarget name inside with _ | ⟨target, closing, _⟩
      · rfl
      · simp only
        rcases expect .rightParen .unclosedParenthesis closing with _ | _ <;> rfl
  | [] | ⟨.symbol _, _⟩ :: _ | ⟨.number _, _⟩ :: _ | ⟨.literal _, _⟩ :: _ | ⟨.variable _, _⟩ :: _
  | ⟨.function _, _⟩ :: _ | ⟨.axis _, _⟩ :: _ => rfl

/-- An axis is named, or `@`, or left out where it is `child`. -/
theorem run_stepAxis :
    run stepAxis s =
      match s.tokens with
      | ⟨.symbol .atSign, _⟩ :: rest => .ok (.attribute, { s with tokens := rest })
      | ⟨.axis name, _⟩ :: rest =>
        match Axis.ofName? name with
        | none => s.fail (.unknownAxis name)
        | some axis =>
          (do
            let _ ← run (expect .colonColon .missingColons)
            return axis : Run Axis) { s with tokens := rest }
      | _ => .ok (.child, s) := by
  obtain ⟨tokens, operators, finish⟩ := s
  match tokens with
  | ⟨.symbol symbol, _⟩ :: rest => cases symbol <;> rfl
  | ⟨.axis name, _⟩ :: rest =>
    simp only [run, stepAxis, bind, StateT.bind]
    rcases Axis.ofName? name with _ | axis
    · rfl
    · simp only
      rcases expect .colonColon .missingColons ⟨rest, operators, finish⟩ with _ | _ <;> rfl
  | [] | ⟨.number _, _⟩ :: _ | ⟨.literal _, _⟩ :: _ | ⟨.variable _, _⟩ :: _ | ⟨.name _, _⟩ :: _
  | ⟨.function _, _⟩ :: _ | ⟨.nodeType _, _⟩ :: _ => rfl

/-- A step is abbreviated by dots, or it has an axis, a test and predicates. -/
theorem run_step :
    run (step expr) s =
      match skip? .dot s, skip? .dotDot s with
      | some t, _ => .ok (.every .self, t)
      | none, some t => .ok (.every .parent, t)
      | none, none =>
        (do
          let axis ← run stepAxis
          let test ← run nodeTest
          let es ← run (predicates expr)
          return .mk axis test es : Run Step) s := by
  rw [run, step, skip?, skip?]
  rcases eat? .dot s with _ | _
  · rcases eat? .dotDot s with _ | _
    · simp only [run, Option.map_none, bind, StateT.bind]
      rcases stepAxis s with _ | ⟨axis, behind, _⟩
      · rfl
      · simp only [Except.bind, Except.map]
        rcases nodeTest behind with _ | ⟨test, behind, _⟩
        · rfl
        · simp only
          rcases predicates expr behind with _ | _ <;> rfl
    · rfl
  · rfl

/-- What follows a step: another one behind a slash, or nothing. -/
def stepsAfter (expr : Parse Expr) (first : Step) : Run (List Step) := fun s =>
  match skip? .slash s, skip? .doubleSlash s with
  | some t, _ =>
    (do
      let more ← run (steps expr)
      return first :: more : Run (List Step)) t
  | none, some t =>
    (do
      let more ← run (steps expr)
      return first :: .descendantOrSelf :: more : Run (List Step)) t
  | none, none => .ok ([first], s)

theorem run_steps : run (steps expr) = run (step expr) >>= stepsAfter expr := by
  funext s
  rw [run, steps]
  simp only [run, stepsAfter, bind, StateT.bind]
  rcases step expr s with _ | ⟨first, behind, _⟩
  · rfl
  · simp only [Except.bind, Except.map, skip?]
    rcases eat? .slash behind with _ | ⟨t, _⟩
    · rcases eat? .doubleSlash behind with _ | ⟨t, _⟩
      · rfl
      · simp only [Option.map_none, Option.map_some]
        rcases steps expr t with _ | _ <;> rfl
    · simp only [Option.map_some]
      rcases steps expr t with _ | _ <;> rfl

end Parts

/-! ## Operands -/

section Operands

variable {expr : Parse Expr} {s : State}

/-- What follows an argument: another one behind a comma, or nothing. -/
def argumentsAfter (expr : Parse Expr) (first : Expr) : Run (List Expr) := fun s =>
  match skip? .comma s with
  | some t =>
    (do
      let more ← run (argumentList expr)
      return first :: more : Run (List Expr)) t
  | none => .ok ([first], s)

/-- Arguments are read as long as a comma stands behind one. -/
theorem run_argumentList : run (argumentList expr) = run expr >>= argumentsAfter expr := by
  funext s
  rw [run, argumentList]
  simp only [run, argumentsAfter, bind, StateT.bind]
  rcases expr s with _ | ⟨first, behind, _⟩
  · rfl
  · simp only [Except.bind, Except.map, skip?]
    rcases eat? .comma behind with _ | ⟨t, _⟩
    · rfl
    · simp only [Option.map_some]
      rcases argumentList expr t with _ | _ <;> rfl

/-- What follows an opening parenthesis: arguments, if there are any, and the closing one. -/
def argumentsInside (expr : Parse Expr) : Run (List Expr) := fun s =>
  match skip? .rightParen s with
  | some t => .ok ([], t)
  | none =>
    (do
      let args ← run (argumentList expr)
      let _ ← run (expect .rightParen .unclosedParenthesis)
      return args : Run (List Expr)) s

theorem run_arguments {name : String} :
    run (arguments expr name) =
      run (expect .leftParen (.missingParenthesis name)) >>= fun _ => argumentsInside expr := by
  funext s
  rw [run, arguments]
  simp only [run, argumentsInside, bind, StateT.bind]
  rcases expect .leftParen (.missingParenthesis name) s with _ | ⟨_, inside, _⟩
  · rfl
  · simp only [Except.bind, Except.map, skip?]
    rcases eat? .rightParen inside with _ | ⟨t, _⟩
    · simp only [Option.map_none]
      rcases argumentList expr inside with _ | ⟨args, closing, _⟩
      · rfl
      · simp only
        rcases expect .rightParen .unclosedParenthesis closing with _ | _ <;> rfl
    · rfl

/-- A function with its arguments, if it takes so many. -/
def callOf (function : Function) (name : String) (position : Nat) (args : List Expr) : Run Expr :=
  if function.arity.allows args.length then return .call function args
  else throw ⟨.wrongArity name args.length, position⟩

/-- The next token alone decides which primary expression is read. -/
theorem run_primary :
    run (primary expr) s =
      match s.tokens with
      | [] => .error ⟨.unexpectedEnd, s.finish⟩
      | ⟨.variable name, position⟩ :: rest =>
        .ok (.variable name position, { s with tokens := rest })
      | ⟨.literal text, _⟩ :: rest => .ok (.literal text, { s with tokens := rest })
      | ⟨.number value, _⟩ :: rest => .ok (.number value, { s with tokens := rest })
      | ⟨.symbol .leftParen, _⟩ :: rest =>
        (do
          let e ← run expr
          let _ ← run (expect .rightParen .unclosedParenthesis)
          return e : Run Expr) { s with tokens := rest }
      | ⟨.function name, position⟩ :: rest =>
        match Function.ofName? name with
        | none => s.fail (.unknownFunction name)
        | some function =>
          (run (arguments expr name) >>= callOf function name position) { s with tokens := rest }
      | ⟨token, _⟩ :: _ => s.fail (.unexpectedToken token) := by
  obtain ⟨tokens, operators, finish⟩ := s
  match tokens with
  | ⟨.symbol symbol, _⟩ :: rest =>
    cases symbol with
    | leftParen =>
      simp only [run, primary, bind, StateT.bind]
      rcases expr ⟨rest, operators, finish⟩ with _ | ⟨inner, closing, _⟩
      · rfl
      · simp only [Except.bind, Except.map]
        rcases expect .rightParen .unclosedParenthesis closing with _ | _ <;> rfl
    | _ => rfl
  | ⟨.function name, position⟩ :: rest =>
    simp only [run, primary, bind, StateT.bind]
    rcases Function.ofName? name with _ | function
    · rfl
    · simp only
      rcases arguments expr name ⟨rest, operators, finish⟩ with _ | ⟨args, behind, _⟩
      · rfl
      · simp only [Except.bind, Except.map, callOf]
        rcases function.arity.allows args.length <;> rfl
  | [] | ⟨.number _, _⟩ :: _ | ⟨.literal _, _⟩ :: _ | ⟨.variable _, _⟩ :: _ | ⟨.name _, _⟩ :: _
  | ⟨.axis _, _⟩ :: _ | ⟨.nodeType _, _⟩ :: _ => rfl

theorem run_stepsBehind :
    run (stepsBehind expr) s =
      match skip? .slash s, skip? .doubleSlash s with
      | some t, _ => run (steps expr) t
      | none, some t =>
        (do
          let more ← run (steps expr)
          return .descendantOrSelf :: more : Run (List Step)) t
      | none, none => .ok ([], s) := by
  rw [run, stepsBehind, skip?, skip?]
  rcases eat? .slash s with _ | ⟨t, _⟩
  · rcases eat? .doubleSlash s with _ | ⟨t, _⟩
    · rfl
    · simp only [run, Option.map_none, Option.map_some, bind, StateT.bind]
      rcases steps expr t with _ | _ <;> rfl
  · simp only [run, Option.map_some]
    rcases steps expr t with _ | _ <;> rfl

/-- Predicates and steps make a filter of an expression, if there are any. -/
def withFilter (e : Expr) : List Expr → List Step → Expr
  | [], [] => e
  | es, ss => .filter e es ss

theorem withFilter_of_ne {e : Expr} {es : List Expr} {ss : List Step} (h : es ≠ [] ∨ ss ≠ []) :
    withFilter e es ss = .filter e es ss := by
  cases es with
  | cons => rfl
  | nil =>
    cases ss with
    | cons => rfl
    | nil => simp at h

/-- A primary expression stays as it is unless predicates or steps follow it. -/
theorem run_filtered :
    run (filtered expr) = do
      let e ← run (primary expr)
      let es ← run (predicates expr)
      let ss ← run (stepsBehind expr)
      return withFilter e es ss := by
  funext s
  simp only [run, filtered, bind, StateT.bind]
  rcases primary expr s with _ | ⟨e, behind, _⟩
  · rfl
  · simp only [Except.bind, Except.map]
    rcases predicates expr behind with _ | ⟨es, behind, _⟩
    · rfl
    · simp only
      rcases stepsBehind expr behind with _ | ⟨ss, rest, _⟩
      · rfl
      · rcases es with _ | _
        · rcases ss with _ | _ <;> rfl
        · rfl

/-- A path whose steps come next. -/
def pathOf (expr : Parse Expr) (absolute : Bool) : Run Expr := do
  let path ← run (steps expr)
  return .path absolute path

/-- A path is told from a filtered expression by the next token, and its beginning by the slashes.
-/
theorem run_parsePath :
    run (parsePath expr) s =
      if atPrimary s then run (filtered expr) s
      else
        match skip? .slash s, skip? .doubleSlash s with
        | some t, _ => if atStep t then pathOf expr true t else .ok (.path true [], t)
        | none, some t =>
          (do
            let path ← run (steps expr)
            return .path true (.descendantOrSelf :: path) : Run Expr) t
        | none, none => pathOf expr false s := by
  rw [run, parsePath, skip?, skip?]
  split
  · rfl
  · rcases eat? .slash s with _ | ⟨t, _⟩
    · rcases eat? .doubleSlash s with _ | ⟨t, _⟩
      · simp only [run, pathOf, Option.map_none, bind, StateT.bind]
        rcases steps expr s with _ | _ <;> rfl
      · simp only [run, Option.map_none, Option.map_some, bind, StateT.bind]
        rcases steps expr t with _ | _ <;> rfl
    · simp only [run, pathOf, Option.map_some, bind, StateT.bind]
      split
      · rcases steps expr t with _ | _ <;> rfl
      · rfl

/-- A minus sign uses up one level of nesting. -/
theorem run_parseUnary {depth : Nat} :
    run (parseUnary (depth + 1)) s =
      match skip? .minus s with
      | some t =>
        (do
          let operand ← run (parseUnary depth)
          return .negate operand : Run Expr) t
      | none => run (unions (parsePath (parseOr depth))) s := by
  rw [run, parseUnary, skip?]
  dsimp only
  rcases eat? .minus s with _ | ⟨t, _⟩
  · rfl
  · simp only [run, Option.map_some, bind, StateT.bind]
    rcases parseUnary depth t with _ | _ <;> rfl

end Operands

/-- The expression that was read, if nothing is left. -/
def ended (r : Expr × State) : Except QueryError Expr :=
  match r.2.tokens with
  | [] => .ok r.1
  | extra :: _ => .error ⟨.unexpectedToken extra.token, extra.position⟩

end Parser

theorem Expr.ofTokens_eq {tokens : List Located} {finish : Nat} (h : tokens ≠ []) :
    Expr.ofTokens tokens finish =
      Parser.run (Parser.parseOr maxDepth) ⟨tokens, 0, finish⟩ >>= Parser.ended := by
  rw [Expr.ofTokens, if_neg (by simpa using h), Parser.run]
  rcases Parser.parseOr maxDepth ⟨tokens, 0, finish⟩ with _ | _ <;> rfl

end HtmlQuery
