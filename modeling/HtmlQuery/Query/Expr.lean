/-!
# Expressions

The tree of an expression.  A path is a list of steps, and a step goes along an axis, keeps the
nodes that pass a test, and then those that satisfy each predicate in turn.  A filter is any other
expression with predicates, with steps, or with both behind it.
-/

namespace HtmlQuery

/-- The operators between two operands, those between node-sets left out. -/
inductive BinaryOp where
  | or
  | and
  | equal
  | notEqual
  | less
  | lessEqual
  | greater
  | greaterEqual
  | add
  | subtract
  | multiply
  | divide
  | modulo
deriving DecidableEq, Repr

/-- Whether an operator compares. -/
def BinaryOp.isComparison : BinaryOp → Bool
  | .equal | .notEqual | .less | .lessEqual | .greater | .greaterEqual => true
  | _ => false

/-- The ways from a node to a list of nodes. -/
inductive Axis where
  | ancestor
  | ancestorOrSelf
  | attribute
  | child
  | descendant
  | descendantOrSelf
  | following
  | followingSibling
  | namespace
  | parent
  | preceding
  | precedingSibling
  | self
deriving DecidableEq, Repr

namespace Axis

/-- The name of an axis. -/
def name : Axis → String
  | ancestor => "ancestor"
  | ancestorOrSelf => "ancestor-or-self"
  | .attribute => "attribute"
  | child => "child"
  | descendant => "descendant"
  | descendantOrSelf => "descendant-or-self"
  | following => "following"
  | followingSibling => "following-sibling"
  | .namespace => "namespace"
  | parent => "parent"
  | preceding => "preceding"
  | precedingSibling => "preceding-sibling"
  | self => "self"

/-- All axes. -/
def every : List Axis :=
  [ancestor, ancestorOrSelf, .attribute, child, descendant, descendantOrSelf, following,
    followingSibling, .namespace, parent, preceding, precedingSibling, self]

/-- The axis of a name. -/
def ofName? (name : String) : Option Axis :=
  every.find? (·.name == name)

/-- Whether an axis numbers its nodes nearest first, against the order of the document. -/
def isReverse : Axis → Bool
  | ancestor | ancestorOrSelf | preceding | precedingSibling => true
  | _ => false

end Axis

/-- The tests that the nodes of an axis can be put to. -/
inductive NodeTest where
  /-- An element or attribute with this name. -/
  | name (name : String)
  /-- Any element, or any attribute on the attribute axis. -/
  | any
  /-- Any node. -/
  | node
  /-- A text. -/
  | text
  /-- A comment. -/
  | comment
  /-- A processing instruction, with this target if one is given. -/
  | instruction (target : Option String)
deriving DecidableEq, Repr

/-- The functions. -/
inductive Function where
  | last
  | position
  | count
  | name
  | localName
  | string
  | concat
  | startsWith
  | endsWith
  | contains
  | substringBefore
  | substringAfter
  | substring
  | stringLength
  | normalizeSpace
  | translate
  | boolean
  | not
  | true
  | false
  | number
  | sum
  | floor
  | ceiling
  | round
deriving DecidableEq, Repr

/-- How many arguments a function takes.  Without `most` there is no upper bound. -/
structure Arity where
  /-- The fewest arguments. -/
  least : Nat
  /-- The most arguments, if there is a bound. -/
  most : Option Nat
deriving DecidableEq, Repr

/-- Whether a number of arguments is allowed. -/
def Arity.allows (a : Arity) (count : Nat) : Bool :=
  a.least ≤ count &&
    match a.most with
    | some most => count ≤ most
    | none => true

namespace Function

/-- The name of a function in an expression. -/
def spelling : Function → String
  | last => "last"
  | position => "position"
  | count => "count"
  | name => "name"
  | localName => "local-name"
  | string => "string"
  | concat => "concat"
  | startsWith => "starts-with"
  | endsWith => "ends-with"
  | contains => "contains"
  | substringBefore => "substring-before"
  | substringAfter => "substring-after"
  | substring => "substring"
  | stringLength => "string-length"
  | normalizeSpace => "normalize-space"
  | translate => "translate"
  | boolean => "boolean"
  | not => "not"
  | .true => "true"
  | .false => "false"
  | number => "number"
  | sum => "sum"
  | floor => "floor"
  | ceiling => "ceiling"
  | round => "round"

/-- All functions. -/
def every : List Function :=
  [last, position, count, name, localName, string, concat, startsWith, endsWith, contains,
    substringBefore, substringAfter, substring, stringLength, normalizeSpace, translate, boolean,
    not, .true, .false, number, sum, floor, ceiling, round]

/-- The function of a name. -/
def ofName? (text : String) : Option Function :=
  every.find? (·.spelling == text)

/-- How many arguments the function takes. -/
def arity : Function → Arity
  | last | position | .true | .false => ⟨0, some 0⟩
  | name | localName | string | stringLength | normalizeSpace | number => ⟨0, some 1⟩
  | count | boolean | not | sum | floor | ceiling | round => ⟨1, some 1⟩
  | startsWith | endsWith | contains | substringBefore | substringAfter => ⟨2, some 2⟩
  | substring => ⟨2, some 3⟩
  | translate => ⟨3, some 3⟩
  | concat => ⟨2, none⟩

end Function

mutual

/-- An expression. -/
inductive Expr where
  /-- A number. -/
  | number (value : Float)
  /-- A text. -/
  | literal (text : String)
  /-- A variable, and the byte of the expression that it begins at. -/
  | variable (name : String) (position : Nat)
  /-- An operator between two operands. -/
  | binary (op : BinaryOp) (left right : Expr)
  /-- A minus sign before an operand. -/
  | negate (operand : Expr)
  /-- A function and its arguments. -/
  | call (function : Function) (arguments : List Expr)
  /-- The nodes of both operands. -/
  | union (left right : Expr)
  /-- Steps from the top of the document or from the current node. -/
  | path (absolute : Bool) (steps : List Step)
  /-- Predicates and steps behind another expression. -/
  | filter (primary : Expr) (predicates : List Expr) (steps : List Step)

/-- An axis, a test and predicates. -/
inductive Step where
  | mk (axis : Axis) (test : NodeTest) (predicates : List Expr)

end

/-- A step to all nodes of an axis. -/
def Step.every (axis : Axis) : Step :=
  .mk axis .node []

/-- The step that two slashes stand for. -/
def Step.descendantOrSelf : Step :=
  .every .descendantOrSelf

end HtmlQuery
