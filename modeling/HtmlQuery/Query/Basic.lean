import HtmlQuery.Query.Evaluation
import HtmlQuery.Query.Parser
import HtmlQuery.Query.Template

/-!
# Queries

A query is an expression that has been read, its text, and where it starts.  An expression that
begins with a point or with two slashes starts at the node that it is asked of, every other one at
the top of that node's document.
-/

namespace HtmlQuery

/-- Where a query starts. -/
inductive Origin where
  /-- At the node that the query is asked of. -/
  | here
  /-- At the top of the document. -/
  | document
deriving DecidableEq, Repr

/-- Where an expression starts, by its first characters. -/
def Origin.of (expression : String) : Origin :=
  match expression.toList.dropWhile Text.isBlank with
  | '.' :: _ => .here
  | '/' :: '/' :: _ => .here
  | _ => .document

/-- An expression that has been read. -/
structure Query where
  /-- The text of the expression. -/
  source : String
  /-- Where the query starts. -/
  origin : Origin
  /-- The expression. -/
  expr : Expr

namespace Query

/-- Reads an expression. -/
def compile (expression : String) : Except QueryError Query := do
  let expr ← Expr.parse expression
  return ⟨expression, .of expression, expr⟩

/-- The node that a query asked of `n` starts at. -/
def start (q : Query) (n : Node) : Node :=
  match q.origin with
  | .here => n
  | .document => n.document

/-- The value of a query. -/
def evaluate (q : Query) (n : Node) : Except QueryError Value :=
  q.expr.valueAt (q.start n)

/-- The nodes that a query selects, in document order. -/
def select (q : Query) (n : Node) : Except QueryError (List Node) := do
  match ← q.evaluate n with
  | .nodeSet nodes => return nodes
  | v => .error ⟨.yieldsNoNodes v.type, 0⟩

/-- The first node that a query selects. -/
def selectFirst? (q : Query) (n : Node) : Except QueryError (Option Node) := do
  let nodes ← q.select n
  return nodes.head?

end Query

namespace Node

/-- The value of an expression. -/
def evaluate (n : Node) (expression : String) : Except QueryError Value := do
  let q ← Query.compile expression
  q.evaluate n

/-- The nodes that an expression selects, in document order. -/
def select (n : Node) (expression : String) : Except QueryError (List Node) := do
  let q ← Query.compile expression
  q.select n

/-- The first node that an expression selects. -/
def selectFirst? (n : Node) (expression : String) : Except QueryError (Option Node) := do
  let q ← Query.compile expression
  q.selectFirst? n

/-- The nodes that a template selects. -/
def ofTemplate (n : Node) (t : Template) : Except QueryError (List Node) := do
  let expression ← t.expression
  n.select expression

/-- The first node that a template selects. -/
def firstOfTemplate? (n : Node) (t : Template) : Except QueryError (Option Node) := do
  let expression ← t.expression
  n.selectFirst? expression

end Node

end HtmlQuery
