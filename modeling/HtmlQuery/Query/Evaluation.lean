import HtmlQuery.Decimal.Binary
import HtmlQuery.Query.Expr
import HtmlQuery.Query.Value
import HtmlQuery.Text.Occurrence
import HtmlQuery.Tree.Order

/-!
# The value of an expression

An expression is evaluated at a `Focus`: a node, its position in the list that is being filtered,
and the length of that list.

A step takes each node of a list along its axis, keeps what passes the test, and filters by the
predicates.  An axis is in axis order, the nearest first on a reverse axis, and predicates count
positions in that order.  What the nodes of a list yield is put together in document order, each
node once.  A single node yields its axis in order already, so it is only turned round if the axis
is a reverse one.

The arguments of a function are evaluated in order before the function is applied to their values.
`or` and `and` evaluate their right operand only if the left one does not decide.
-/

namespace HtmlQuery

/-- Where an expression is evaluated. -/
structure Focus where
  /-- The current node. -/
  node : Node
  /-- The position of the node in its list, counted from one. -/
  position : Nat
  /-- The length of the list. -/
  size : Nat

/-! ## Axes and tests -/

/-- The nodes of an axis, in axis order. -/
def Axis.nodes (axis : Axis) (n : Node) : List Node :=
  match axis with
  | .child => n.children
  | .descendant => n.descendants
  | .descendantOrSelf => n :: n.descendants
  | .parent => n.parent?.toList
  | .ancestor => n.ancestors
  | .ancestorOrSelf => n :: n.ancestors
  | .followingSibling => n.followingSiblings
  | .precedingSibling => n.precedingSiblings
  | .following => n.following
  | .preceding => n.preceding
  | .attribute => n.attributeNodes
  | .self => [n]
  | .namespace => []

/-- Whether a node on an axis passes a test.  On the attribute axis names are those of
attributes, elsewhere those of elements. -/
def NodeTest.passes (test : NodeTest) (axis : Axis) (n : Node) : Bool :=
  match test with
  | .node => true
  | .any => if axis = .attribute then n.isAttribute else n.isElement
  | .name wanted =>
    if axis = .attribute then n.isAttribute && n.tagName? == some wanted else n.hasTag wanted
  | .text => n.isText
  | .comment => n.isComment
  | .instruction none => n.kind == .instruction
  | .instruction (some target) => n.kind == .instruction && n.instructionTarget? == some target

/-! ## Comparisons -/

/-- Compares two values neither of which is a node-set.  Equality is that of booleans if one of them
is a boolean, else of numbers if one is a number, else of strings.  Order is that of numbers. -/
def compareAtoms (op : BinaryOp) (left right : Value) : Bool :=
  let equal :=
    match left, right with
    | .boolean _, _ => left.toBoolean == right.toBoolean
    | _, .boolean _ => left.toBoolean == right.toBoolean
    | .number _, _ => left.toNumber == right.toNumber
    | _, .number _ => left.toNumber == right.toNumber
    | _, _ => left.toText == right.toText
  match op with
  | .equal => equal
  | .notEqual => !equal
  | .less => left.toNumber < right.toNumber
  | .lessEqual => left.toNumber ≤ right.toNumber
  | .greater => left.toNumber > right.toNumber
  | _ => left.toNumber ≥ right.toNumber

/-- Compares two values.  A node-set compares as a boolean with a boolean, and otherwise as any one
of its nodes does. -/
def compareValues (op : BinaryOp) (left right : Value) : Bool :=
  match left, right with
  | .nodeSet ls, .nodeSet rs =>
    let rights := rs.map fun r => Value.string r.rawText
    ls.any fun l =>
      let l := Value.string l.rawText
      rights.any fun r => compareAtoms op l r
  | .nodeSet _, .boolean _ => compareAtoms op (.boolean left.toBoolean) right
  | .boolean _, .nodeSet _ => compareAtoms op left (.boolean right.toBoolean)
  | .nodeSet ls, _ => ls.any fun l => compareAtoms op (.string l.rawText) right
  | _, .nodeSet rs => rs.any fun r => compareAtoms op left (.string r.rawText)
  | _, _ => compareAtoms op left right

/-- The value of an arithmetic operator. -/
def arithmetic (op : BinaryOp) (a b : Float) : Float :=
  match op with
  | .add => a + b
  | .subtract => a - b
  | .multiply => a * b
  | .divide => a / b
  | _ => Decimal.remainder a b

/-! ## Functions -/

/-- The whole number nearest to a number, of two the greater one.  What rounds to zero from below
is negative zero. -/
def roundHalfUp (n : Float) : Float :=
  if n.isNaN || n.isInf then n
  else if -0.5 ≤ n && n < 0 then -0.0
  else Decimal.floor (n + 0.5)

/-- The characters from one position up to another one, which is left out. -/
def substringFrom (start finish : Float) : (position : Nat) → List Char → List Char
  | _, [] => []
  | position, c :: cs =>
    let p := Float.ofNat position
    let rest := substringFrom start finish (position + 1) cs
    if start ≤ p && p < finish then c :: rest else rest

/-- The characters at the positions `p`, counted from one, with `start ≤ p < finish`. -/
def substring (text : String) (start finish : Float) : String :=
  String.ofList (substringFrom start finish 1 text.toList)

/-- Replaces each character that occurs in `source` by the one at the same place in `target`, and
leaves it out if there is none. -/
def translate (text source target : String) : String :=
  let source := source.toList
  let target := target.toList
  String.ofList <| text.toList.filterMap fun c =>
    match source.findIdx? (· == c) with
    | some i => target[i]?
    | none => some c

/-- The part of a name after its last colon. -/
def localName (name : String) : String :=
  String.ofList (name.toList.reverse.takeWhile (· != ':')).reverse

/-- The name of an element or attribute, the target of a processing instruction, and nothing for
every other node. -/
def nodeName (n : Node) : String :=
  match n.tagName? with
  | some name => name
  | none => n.instructionTarget?.getD ""

/-- The nodes of a value, for a use that wants a node-set. -/
def Value.nodes (usage : NodeSetUse) : Value → Except QueryError (List Node)
  | .nodeSet nodes => .ok nodes
  | v => .error ⟨.needsNodeSet usage v.type, 0⟩

namespace Function

/-- The string that an argument is read as, or that of the current node if it is left out. -/
def textAt (focus : Focus) (args : List Value) (index : Nat) : String :=
  match args[index]? with
  | some v => v.toText
  | none => focus.node.rawText

/-- The number that an argument is read as, or that of the current node if it is left out. -/
def numberAt (focus : Focus) (args : List Value) (index : Nat) : Float :=
  match args[index]? with
  | some v => v.toNumber
  | none => numberOfText focus.node.rawText

/-- The nodes of the first argument, or the current node if it is left out. -/
def nodesAt (usage : NodeSetUse) (focus : Focus) (args : List Value) :
    Except QueryError (List Node) :=
  match args with
  | v :: _ => v.nodes usage
  | [] => .ok [focus.node]

/-- The boolean that the first argument is read as. -/
def booleanAt (args : List Value) : Except QueryError Bool :=
  match args with
  | v :: _ => .ok v.toBoolean
  | [] => .error ⟨.missingArgument, 0⟩

/-- The value of a function at the values of its arguments. -/
def apply (function : Function) (focus : Focus) (args : List Value) : Except QueryError Value :=
  let text := textAt focus args
  let num := numberAt focus args
  match function with
  | .last => .ok (.number (Float.ofNat focus.size))
  | .position => .ok (.number (Float.ofNat focus.position))
  | .count => do
    let nodes ← nodesAt .count focus args
    return .number (Float.ofNat nodes.length)
  | .name => do
    let nodes ← nodesAt .name focus args
    return .string ((nodes.head?.map nodeName).getD "")
  | .localName => do
    let nodes ← nodesAt .name focus args
    return .string (HtmlQuery.localName ((nodes.head?.map nodeName).getD ""))
  | .string => .ok (.string (text 0))
  | .concat => .ok (.string (String.join (args.map Value.toText)))
  | .startsWith => .ok (.boolean (Text.beginsWith (text 0) (text 1)))
  | .endsWith => .ok (.boolean (Text.endsWith (text 0) (text 1)))
  | .contains => .ok (.boolean (Text.contains (text 0) (text 1)))
  | .substringBefore => .ok (.string (Text.before (text 0) (text 1)))
  | .substringAfter => .ok (.string (Text.after (text 0) (text 1)))
  | .substring =>
    let start := roundHalfUp (num 1)
    let finish :=
      match args[2]? with
      | some v => start + roundHalfUp v.toNumber
      | none => 1 / 0
    .ok (.string (HtmlQuery.substring (text 0) start finish))
  | .stringLength => .ok (.number (Float.ofNat (text 0).length))
  | .normalizeSpace => .ok (.string (Text.normalizeSpace (text 0)))
  | .translate => .ok (.string (HtmlQuery.translate (text 0) (text 1) (text 2)))
  | .boolean => do
    let b ← booleanAt args
    return .boolean b
  | .not => do
    let b ← booleanAt args
    return .boolean !b
  | .true => .ok (.boolean Bool.true)
  | .false => .ok (.boolean Bool.false)
  | .number => .ok (.number (num 0))
  | .sum => do
    let nodes ← nodesAt .sum focus args
    return .number (nodes.foldl (fun total n => total + numberOfText n.rawText) (-0.0))
  | .floor => .ok (.number (Decimal.floor (num 0)))
  | .ceiling => .ok (.number (Decimal.ceiling (num 0)))
  | .round => .ok (.number (roundHalfUp (num 0)))

end Function

/-! ## Filters and steps -/

/-- Whether a node whose predicate has this value stays: a number is a position, any other value is
read as a boolean. -/
def Value.keeps (position : Nat) : Value → Bool
  | .number n => n == Float.ofNat position
  | v => v.toBoolean

/-- Keeps the nodes at which a predicate holds, the first of them being at a given position. -/
def keepFrom (predicate : Focus → Except QueryError Value) (size : Nat) :
    (position : Nat) → List Node → Except QueryError (List Node)
  | _, [] => .ok []
  | position, n :: rest => do
    let v ← predicate ⟨n, position, size⟩
    let kept ← keepFrom predicate size (position + 1) rest
    return if v.keeps position then n :: kept else kept

/-- Keeps the nodes at which a predicate holds, numbered in the order of the list. -/
def keepWhere (predicate : Focus → Except QueryError Value) (nodes : List Node) :
    Except QueryError (List Node) :=
  keepFrom predicate nodes.length 1 nodes

/-- The nodes of an axis that pass a test. -/
def axisNodes (axis : Axis) (test : NodeTest) (n : Node) : List Node :=
  (axis.nodes n).filter (test.passes axis)

/-- What a list of nodes yields, node by node. -/
def collect (select : Node → Except QueryError (List Node)) :
    List Node → Except QueryError (List Node)
  | [] => .ok []
  | n :: rest => do
    let first ← select n
    let more ← collect select rest
    return first ++ more

/-- What a step yields from a list of nodes, given what it yields from one node in axis order. -/
def stepFrom (axis : Axis) (select : Node → Except QueryError (List Node)) (nodes : List Node) :
    Except QueryError (List Node) := do
  let selected ← collect select nodes
  match nodes with
  | [_] => return if axis.isReverse then selected.reverse else selected
  | _ => return sortedByRank selected

/-! ## Expressions -/

mutual

/-- The value of an expression at a focus, in the document with the given top. -/
def Expr.eval (top : Node) : Expr → Focus → Except QueryError Value
  | .number value, _ => .ok (.number value)
  | .literal text, _ => .ok (.string text)
  | .variable name position, _ => .error ⟨.undefinedVariable name, position⟩
  | .negate operand, focus => do
    let v ← operand.eval top focus
    return .number (-v.toNumber)
  | .binary .or left right, focus => do
    let l ← left.eval top focus
    if l.toBoolean then return .boolean true
    else
      let r ← right.eval top focus
      return .boolean r.toBoolean
  | .binary .and left right, focus => do
    let l ← left.eval top focus
    if l.toBoolean then
      let r ← right.eval top focus
      return .boolean r.toBoolean
    else return .boolean false
  | .binary op left right, focus => do
    let l ← left.eval top focus
    let r ← right.eval top focus
    if op.isComparison then return .boolean (compareValues op l r)
    else return .number (arithmetic op l.toNumber r.toNumber)
  | .union left right, focus => do
    let l ← left.eval top focus
    let ls ← l.nodes .union
    let r ← right.eval top focus
    let rs ← r.nodes .union
    return .nodeSet (sortedByRank (ls ++ rs))
  | .path absolute steps, focus => do
    let nodes ← evalSteps top steps [if absolute then top else focus.node]
    return .nodeSet nodes
  | .filter primary predicates steps, focus => do
    let v ← primary.eval top focus
    let nodes ← v.nodes .filter
    let kept ← evalPredicates top predicates nodes
    let nodes ← evalSteps top steps kept
    return .nodeSet nodes
  | .call function arguments, focus => do
    let args ← evalArguments top arguments focus
    function.apply focus args

/-- The values of arguments, in order. -/
def evalArguments (top : Node) : List Expr → Focus → Except QueryError (List Value)
  | [], _ => .ok []
  | e :: es, focus => do
    let v ← e.eval top focus
    let vs ← evalArguments top es focus
    return v :: vs

/-- The nodes that satisfy each predicate in turn, numbered anew before each. -/
def evalPredicates (top : Node) : List Expr → List Node → Except QueryError (List Node)
  | [], nodes => .ok nodes
  | e :: es, nodes => do
    let kept ← keepWhere (fun focus => e.eval top focus) nodes
    evalPredicates top es kept

/-- The nodes that a step yields from a list of nodes. -/
def Step.eval (top : Node) : Step → List Node → Except QueryError (List Node)
  | .mk axis test predicates, nodes =>
    stepFrom axis (fun n => evalPredicates top predicates (axisNodes axis test n)) nodes

/-- The nodes that steps yield from a list of nodes, one step after the other. -/
def evalSteps (top : Node) : List Step → List Node → Except QueryError (List Node)
  | [], nodes => .ok nodes
  | s :: ss, nodes => do
    let selected ← s.eval top nodes
    evalSteps top ss selected

end

/-- The value of an expression at a node on its own. -/
def Expr.valueAt (e : Expr) (n : Node) : Except QueryError Value :=
  e.eval n.document ⟨n, 1, 1⟩

end HtmlQuery
