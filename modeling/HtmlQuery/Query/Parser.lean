import HtmlQuery.Query.Expr
import HtmlQuery.Query.Lexer

/-!
# From tokens to expressions

The operators bind, the loosest first: `or`, `and`, equality, order, sums, products, minus signs,
unions, paths.  Operators of one level group to the left.

Two limits keep expressions small.  A subexpression in parentheses, in a predicate, in an argument
or behind a minus sign is nested, and nesting goes `maxDepth` deep.  Of operators there may be
`maxOperators` in a whole expression.

Every cycle of the grammar passes through `parseOr` or `parseUnary`, which take the nesting that is
left and hand on one less, so those two recurse on it.  The loops between them (chains of operators,
steps, predicates, arguments) read a token in every round, and a reading never gives tokens back:
a `Reading` says that what it leaves is no longer than what it was given.
-/

namespace HtmlQuery

/-- How deep expressions nest. -/
def maxDepth : Nat := 256

/-- How many operators an expression has. -/
def maxOperators : Nat := 512

namespace Parser

/-- What a reading starts from. -/
structure State where
  /-- The tokens not read yet. -/
  tokens : List Located
  /-- The number of operators read. -/
  operators : Nat
  /-- The length of the expression in bytes. -/
  finish : Nat

namespace State

/-- The byte of the next token, or the end of the expression. -/
def position (s : State) : Nat :=
  match s.tokens with
  | [] => s.finish
  | t :: _ => t.position

/-- A fault at the next token. -/
def fail {α : Type} (s : State) (fault : Fault) : Except QueryError α :=
  .error ⟨fault, s.position⟩

end State

/-- A value read, and what is left to read. -/
structure Reading (s : State) (α : Type) where
  /-- The value. -/
  value : α
  /-- What is left. -/
  rest : State
  /-- Nothing is given back. -/
  length_le : rest.tokens.length ≤ s.tokens.length

/-- A function that reads a value. -/
abbrev Parse (α : Type) : Type :=
  (s : State) → Except QueryError (Reading s α)

/-- A reading from what another one left. -/
def Reading.of {s t : State} {α : Type} (h : t.tokens.length ≤ s.tokens.length)
    (r : Reading t α) : Reading s α :=
  ⟨r.value, r.rest, Nat.le_trans r.length_le h⟩

/-- The state behind the next token if that token is a given symbol. -/
def eat? (symbol : Symbol) (s : State) :
    Option { t : State // t.tokens.length < s.tokens.length } :=
  match s.tokens with
  | ⟨.symbol found, _⟩ :: rest =>
    if found = symbol then some ⟨{ s with tokens := rest }, by simp⟩ else none
  | _ => none

/-! ## Chains of operators -/

/-- Counts an operator that was just read. -/
def countOperator (s : State) : Except QueryError { t : State // t.tokens = s.tokens } :=
  if maxOperators ≤ s.operators then s.fail .tooManyOperators
  else .ok ⟨{ s with operators := s.operators + 1 }, rfl⟩

/-- The operator that the next token is on some level, and the state behind it. -/
def eatOperator? (level : Symbol → Option BinaryOp) (s : State) :
    Option (BinaryOp × { t : State // t.tokens.length < s.tokens.length }) :=
  match s.tokens with
  | ⟨.symbol found, _⟩ :: rest =>
    (level found).map fun op => (op, ⟨{ s with tokens := rest }, by simp⟩)
  | _ => none

/-- Goes on with a chain of operators of one level behind its left operand. -/
def chainFrom (level : Symbol → Option BinaryOp) (operand : Parse Expr) (left : Expr) :
    Parse Expr := fun s =>
  match eatOperator? level s with
  | none => .ok ⟨left, s, Nat.le_refl _⟩
  | some (op, ⟨behind, h₁⟩) => do
    let ⟨counted, h₂⟩ ← countOperator behind
    let ⟨right, rest, h₃⟩ ← operand counted
    have : rest.tokens.length < s.tokens.length := by
      rw [h₂] at h₃
      omega
    let r ← chainFrom level operand (.binary op left right) rest
    return r.of (Nat.le_of_lt this)
termination_by s => s.tokens.length

/-- A chain of operators of one level. -/
def chain (level : Symbol → Option BinaryOp) (operand : Parse Expr) : Parse Expr := fun s => do
  let r ← operand s
  let r' ← chainFrom level operand r.value r.rest
  return r'.of r.length_le

/-- The operator of the loosest level. -/
def orLevel : Symbol → Option BinaryOp
  | .or => some .or
  | _ => none

/-- The operator of the second level. -/
def andLevel : Symbol → Option BinaryOp
  | .and => some .and
  | _ => none

/-- The operators of equality. -/
def equalityLevel : Symbol → Option BinaryOp
  | .equal => some .equal
  | .notEqual => some .notEqual
  | _ => none

/-- The operators of order. -/
def orderLevel : Symbol → Option BinaryOp
  | .less => some .less
  | .lessEqual => some .lessEqual
  | .greater => some .greater
  | .greaterEqual => some .greaterEqual
  | _ => none

/-- The operators of sums. -/
def sumLevel : Symbol → Option BinaryOp
  | .plus => some .add
  | .minus => some .subtract
  | _ => none

/-- The operators of products. -/
def productLevel : Symbol → Option BinaryOp
  | .multiply => some .multiply
  | .div => some .divide
  | .mod => some .modulo
  | _ => none

/-- All levels above the operands of products. -/
def parseLevels (operand : Parse Expr) : Parse Expr :=
  chain orLevel <| chain andLevel <| chain equalityLevel <| chain orderLevel <| chain sumLevel <|
    chain productLevel operand

/-- Goes on with a chain of unions behind its left operand. -/
def unionFrom (operand : Parse Expr) (left : Expr) : Parse Expr := fun s =>
  match eat? .pipe s with
  | none => .ok ⟨left, s, Nat.le_refl _⟩
  | some ⟨behind, h₁⟩ => do
    let ⟨counted, h₂⟩ ← countOperator behind
    let ⟨right, rest, h₃⟩ ← operand counted
    have : rest.tokens.length < s.tokens.length := by
      rw [h₂] at h₃
      omega
    let r ← unionFrom operand (.union left right) rest
    return r.of (Nat.le_of_lt this)
termination_by s => s.tokens.length

/-- A chain of unions. -/
def unions (operand : Parse Expr) : Parse Expr := fun s => do
  let r ← operand s
  let r' ← unionFrom operand r.value r.rest
  return r'.of r.length_le

/-! ## Parts of a path -/

/-- A symbol that has to stand next. -/
def expect (symbol : Symbol) (fault : Fault) : Parse Unit := fun s =>
  match eat? symbol s with
  | some ⟨t, h⟩ => .ok ⟨(), t, Nat.le_of_lt h⟩
  | none => s.fail fault

/-- The predicates that stand next. -/
def predicates (expr : Parse Expr) : Parse (List Expr) := fun s =>
  match eat? .leftBracket s with
  | none => .ok ⟨[], s, Nat.le_refl _⟩
  | some ⟨behind, h₁⟩ => do
    let ⟨predicate, closing, h₂⟩ ← expr behind
    let ⟨(), rest, h₃⟩ ← expect .rightBracket .unclosedPredicate closing
    have : rest.tokens.length < s.tokens.length := by omega
    let ⟨more, rest', h₄⟩ ← predicates expr rest
    return ⟨predicate :: more, rest', by omega⟩
termination_by s => s.tokens.length

/-- The target between the parentheses of a node type, if one stands there. -/
def instructionTarget (nodeType : String) : Parse (Option String) := fun s =>
  match h : s.tokens with
  | ⟨.literal target, _⟩ :: rest =>
    if nodeType == "processing-instruction" then
      .ok ⟨some target, { s with tokens := rest }, by simp [h]⟩
    else .ok ⟨none, s, Nat.le_refl _⟩
  | _ => .ok ⟨none, s, Nat.le_refl _⟩

/-- The test of a node type. -/
def nodeTypeTest (nodeType : String) (target : Option String) : NodeTest :=
  match nodeType with
  | "text" => .text
  | "comment" => .comment
  | "processing-instruction" => .instruction target
  | _ => .node

/-- A node test. -/
def nodeTest : Parse NodeTest := fun s =>
  match h : s.tokens with
  | [] => .error ⟨.unexpectedEnd, s.finish⟩
  | ⟨.name name, _⟩ :: rest =>
    if name == "*" then .ok ⟨.any, { s with tokens := rest }, by simp [h]⟩
    else if name.toList.contains ':' then s.fail (.unboundPrefix name)
    else .ok ⟨.name name, { s with tokens := rest }, by simp [h]⟩
  | ⟨.nodeType name, _⟩ :: rest => do
    let ⟨(), inside, h₁⟩ ← expect .leftParen (.missingParenthesis name) { s with tokens := rest }
    let ⟨target, closing, h₂⟩ ← instructionTarget name inside
    let ⟨(), behind, h₃⟩ ← expect .rightParen .unclosedParenthesis closing
    return ⟨nodeTypeTest name target, behind, by simp [h] at h₁ ⊢; omega⟩
  | ⟨token, _⟩ :: _ => s.fail (.notANodeTest token)

/-- The axis that a step begins with, the child axis if none is written. -/
def stepAxis : Parse Axis := fun s =>
  match h : s.tokens with
  | ⟨.symbol .atSign, _⟩ :: rest => .ok ⟨.attribute, { s with tokens := rest }, by simp [h]⟩
  | ⟨.axis name, _⟩ :: rest =>
    match Axis.ofName? name with
    | none => s.fail (.unknownAxis name)
    | some axis => do
      let ⟨(), behind, h₁⟩ ← expect .colonColon .missingColons { s with tokens := rest }
      return ⟨axis, behind, by simp [h] at h₁ ⊢; omega⟩
  | _ => .ok ⟨.child, s, Nat.le_refl _⟩

/-- A step. -/
def step (expr : Parse Expr) : Parse Step := fun s =>
  match eat? .dot s, eat? .dotDot s with
  | some ⟨t, h⟩, _ => .ok ⟨.every .self, t, Nat.le_of_lt h⟩
  | none, some ⟨t, h⟩ => .ok ⟨.every .parent, t, Nat.le_of_lt h⟩
  | none, none => do
    let ⟨axis, s₁, h₁⟩ ← stepAxis s
    let ⟨test, s₂, h₂⟩ ← nodeTest s₁
    let ⟨conditions, s₃, h₃⟩ ← predicates expr s₂
    return ⟨.mk axis test conditions, s₃, by omega⟩

/-- Steps with slashes between them. -/
def steps (expr : Parse Expr) : Parse (List Step) := fun s => do
  let ⟨first, behind, h₁⟩ ← step expr s
  match eat? .slash behind, eat? .doubleSlash behind with
  | some ⟨t, h₂⟩, _ =>
    have : t.tokens.length < s.tokens.length := by omega
    let ⟨more, rest, h₃⟩ ← steps expr t
    return ⟨first :: more, rest, by omega⟩
  | none, some ⟨t, h₂⟩ =>
    have : t.tokens.length < s.tokens.length := by omega
    let ⟨more, rest, h₃⟩ ← steps expr t
    return ⟨first :: .descendantOrSelf :: more, rest, by omega⟩
  | none, none => return ⟨[first], behind, h₁⟩
termination_by s => s.tokens.length

/-- Whether a step can begin with the next token. -/
def atStep (s : State) : Bool :=
  match s.tokens with
  | ⟨.symbol .dot, _⟩ :: _ => true
  | ⟨.symbol .dotDot, _⟩ :: _ => true
  | ⟨.symbol .atSign, _⟩ :: _ => true
  | ⟨.name _, _⟩ :: _ => true
  | ⟨.nodeType _, _⟩ :: _ => true
  | ⟨.axis _, _⟩ :: _ => true
  | _ => false

/-! ## Operands -/

/-- Arguments with commas between them. -/
def argumentList (expr : Parse Expr) : Parse (List Expr) := fun s => do
  let ⟨first, behind, h₁⟩ ← expr s
  match eat? .comma behind with
  | some ⟨t, h₂⟩ =>
    have : t.tokens.length < s.tokens.length := by omega
    let ⟨more, rest, h₃⟩ ← argumentList expr t
    return ⟨first :: more, rest, by omega⟩
  | none => return ⟨[first], behind, h₁⟩
termination_by s => s.tokens.length

/-- The arguments of a function and the parentheses around them. -/
def arguments (expr : Parse Expr) (name : String) : Parse (List Expr) := fun s => do
  let ⟨(), inside, h₁⟩ ← expect .leftParen (.missingParenthesis name) s
  match eat? .rightParen inside with
  | some ⟨t, h₂⟩ => return ⟨[], t, by omega⟩
  | none =>
    let ⟨args, closing, h₂⟩ ← argumentList expr inside
    let ⟨(), rest, h₃⟩ ← expect .rightParen .unclosedParenthesis closing
    return ⟨args, rest, by omega⟩

/-- An operand that is neither a path nor behind a minus sign. -/
def primary (expr : Parse Expr) : Parse Expr := fun s =>
  match h : s.tokens with
  | [] => .error ⟨.unexpectedEnd, s.finish⟩
  | ⟨.variable name, position⟩ :: rest =>
    .ok ⟨.variable name position, { s with tokens := rest }, by simp [h]⟩
  | ⟨.literal text, _⟩ :: rest => .ok ⟨.literal text, { s with tokens := rest }, by simp [h]⟩
  | ⟨.number value, _⟩ :: rest => .ok ⟨.number value, { s with tokens := rest }, by simp [h]⟩
  | ⟨.symbol .leftParen, _⟩ :: rest => do
    let ⟨inner, closing, h₁⟩ ← expr { s with tokens := rest }
    let ⟨(), behind, h₂⟩ ← expect .rightParen .unclosedParenthesis closing
    return ⟨inner, behind, by simp [h] at h₁ ⊢; omega⟩
  | ⟨.function name, position⟩ :: rest =>
    match Function.ofName? name with
    | none => s.fail (.unknownFunction name)
    | some function => do
      let ⟨args, behind, h₁⟩ ← arguments expr name { s with tokens := rest }
      if function.arity.allows args.length then
        return ⟨.call function args, behind, by simp [h] at h₁ ⊢; omega⟩
      else .error ⟨.wrongArity name args.length, position⟩
  | ⟨token, _⟩ :: _ => s.fail (.unexpectedToken token)

/-- The steps behind a primary operand, none if no slash stands next. -/
def stepsBehind (expr : Parse Expr) : Parse (List Step) := fun s =>
  match eat? .slash s, eat? .doubleSlash s with
  | some ⟨t, h⟩, _ => do
    let r ← steps expr t
    return r.of (Nat.le_of_lt h)
  | none, some ⟨t, h⟩ => do
    let ⟨more, rest, h₁⟩ ← steps expr t
    return ⟨.descendantOrSelf :: more, rest, by omega⟩
  | none, none => .ok ⟨[], s, Nat.le_refl _⟩

/-- A primary operand with predicates and steps. -/
def filtered (expr : Parse Expr) : Parse Expr := fun s => do
  let ⟨operand, s₁, h₁⟩ ← primary expr s
  let ⟨conditions, s₂, h₂⟩ ← predicates expr s₁
  let ⟨path, s₃, h₃⟩ ← stepsBehind expr s₂
  match conditions, path with
  | [], [] => return ⟨operand, s₃, by omega⟩
  | _, _ => return ⟨.filter operand conditions path, s₃, by omega⟩

/-- Whether a primary operand can begin with the next token. -/
def atPrimary (s : State) : Bool :=
  match s.tokens with
  | ⟨.variable _, _⟩ :: _ => true
  | ⟨.symbol .leftParen, _⟩ :: _ => true
  | ⟨.literal _, _⟩ :: _ => true
  | ⟨.number _, _⟩ :: _ => true
  | ⟨.function _, _⟩ :: _ => true
  | _ => false

/-- A path, or a primary operand with predicates and steps. -/
def parsePath (expr : Parse Expr) : Parse Expr := fun s =>
  if atPrimary s then filtered expr s
  else
    match eat? .slash s, eat? .doubleSlash s with
    | some ⟨t, h⟩, _ =>
      if atStep t then do
        let ⟨path, rest, h₁⟩ ← steps expr t
        return ⟨.path true path, rest, by omega⟩
      else .ok ⟨.path true [], t, Nat.le_of_lt h⟩
    | none, some ⟨t, h⟩ => do
      let ⟨path, rest, h₁⟩ ← steps expr t
      return ⟨.path true (.descendantOrSelf :: path), rest, by omega⟩
    | none, none => do
      let ⟨path, rest, h₁⟩ ← steps expr s
      return ⟨.path false path, rest, h₁⟩

/-! ## Whole expressions -/

mutual

/-- An expression, `depth` nestings being left. -/
def parseOr : (depth : Nat) → Parse Expr
  | 0 => fun s => s.fail .tooDeep
  | depth + 1 => parseLevels (parseUnary depth)

/-- An operand of a product, `depth` nestings being left. -/
def parseUnary : (depth : Nat) → Parse Expr
  | 0 => fun s => s.fail .tooDeep
  | depth + 1 => fun s =>
    match eat? .minus s with
    | some ⟨t, h⟩ => do
      let ⟨operand, rest, h₁⟩ ← parseUnary depth t
      return ⟨.negate operand, rest, by omega⟩
    | none => unions (parsePath (parseOr depth)) s

end

end Parser

/-- The expression that the tokens of a text of some length write. -/
def Expr.ofTokens (tokens : List Located) (finish : Nat) : Except QueryError Expr := do
  if tokens.isEmpty then .error ⟨.emptyExpression, 0⟩
  else
    let r ← Parser.parseOr maxDepth ⟨tokens, 0, finish⟩
    match r.rest.tokens with
    | [] => return r.value
    | extra :: _ => .error ⟨.unexpectedToken extra.token, extra.position⟩

/-- The expression that a text writes. -/
def Expr.parse (expression : String) : Except QueryError Expr := do
  let tokens ← tokenize expression
  Expr.ofTokens tokens expression.utf8ByteSize

end HtmlQuery
