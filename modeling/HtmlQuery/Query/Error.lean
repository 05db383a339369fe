import HtmlQuery.Query.Token

/-!
# What can be wrong with a query

A `Fault` is the cause of a failure.  Its kind belongs to a numbered table, and its message names
what was found.  A `QueryError` is a fault and the byte of the expression where it was noticed.
-/

namespace HtmlQuery

/-- The kinds of failure, in the order of their numbers. -/
inductive FaultKind where
  | none
  | number
  | unfinishedLiteral
  | startLiteral
  | variableReference
  | undefinedVariable
  | invalidPredicate
  | invalidExpression
  | unclosed
  | unknownFunction
  | invalidOperand
  | invalidType
  | invalidArity
  | invalidContextSize
  | invalidContextPosition
  | memory
  | undefinedPrefix
  | encoding
  | invalidCharacter
deriving DecidableEq, Repr

namespace FaultKind

/-- The number of a kind in the table. -/
def offset : FaultKind → Nat
  | none => 0
  | number => 1
  | unfinishedLiteral => 2
  | startLiteral => 3
  | variableReference => 4
  | undefinedVariable => 5
  | invalidPredicate => 6
  | invalidExpression => 7
  | unclosed => 8
  | unknownFunction => 9
  | invalidOperand => 10
  | invalidType => 11
  | invalidArity => 12
  | invalidContextSize => 13
  | invalidContextPosition => 14
  | memory => 15
  | undefinedPrefix => 19
  | encoding => 20
  | invalidCharacter => 21

/-- The code of a kind. -/
def code (kind : FaultKind) : Nat :=
  1200 + kind.offset

/-- What the table says of a kind. -/
def description : FaultKind → String
  | none => "Ok"
  | number => "Number encoding"
  | unfinishedLiteral => "Unfinished literal"
  | startLiteral => "Start of literal"
  | variableReference => "Expected $ for variable reference"
  | undefinedVariable => "Undefined variable"
  | invalidPredicate => "Invalid predicate"
  | invalidExpression => "Invalid expression"
  | unclosed => "Missing closing curly brace"
  | unknownFunction => "Unregistered function"
  | invalidOperand => "Invalid operand"
  | invalidType => "Invalid type"
  | invalidArity => "Invalid number of arguments"
  | invalidContextSize => "Invalid context size"
  | invalidContextPosition => "Invalid context position"
  | memory => "Memory allocation error"
  | undefinedPrefix => "Undefined namespace prefix"
  | encoding => "Encoding error"
  | invalidCharacter => "Char out of XML range"

/-- The line that reports a failure. -/
def report (kind : FaultKind) (message : String) (position : Nat) : String :=
  "XPath error " ++ toString kind.code ++ " (" ++ kind.description ++ ") at position " ++
    toString position ++ ": " ++ message

end FaultKind

/-- The types of the values of expressions. -/
inductive ValueType where
  | nodeSet
  | boolean
  | number
  | string
deriving DecidableEq, Repr

/-- The name of a type. -/
def ValueType.name : ValueType → String
  | .nodeSet => "node-set"
  | .boolean => "boolean"
  | .number => "number"
  | .string => "string"

/-- What wants a node-set for an operand. -/
inductive NodeSetUse where
  | union
  | filter
  | count
  | name
  | sum
deriving DecidableEq, Repr

/-- How messages name what wants a node-set. -/
def NodeSetUse.words : NodeSetUse → String
  | .union => "|"
  | .filter => "a filter"
  | .count => "count()"
  | .name => "name()"
  | .sum => "sum()"

/-- The cause of a failure. -/
inductive Fault where
  /-- There is no token at all. -/
  | emptyExpression
  /-- A character that begins no token. -/
  | unexpectedCharacter (c : Char)
  /-- An exclamation mark without an equals sign. -/
  | loneExclamation
  /-- A colon on its own. -/
  | loneColon
  /-- A literal without a closing quote. -/
  | unterminatedLiteral
  /-- A dollar sign without a name. -/
  | missingVariableName
  /-- A token that cannot stand where it does. -/
  | unexpectedToken (token : Token)
  /-- The expression ends where it has to go on. -/
  | unexpectedEnd
  /-- A token where a node test is wanted. -/
  | notANodeTest (token : Token)
  /-- A name before a parenthesis that is no function. -/
  | unknownFunction (name : String)
  /-- A name before two colons that is no axis. -/
  | unknownAxis (name : String)
  /-- A function or node type that no opening parenthesis follows. -/
  | missingParenthesis (name : String)
  /-- An axis that no two colons follow. -/
  | missingColons
  /-- A name with a prefix. -/
  | unboundPrefix (name : String)
  /-- A function with too few or too many arguments. -/
  | wrongArity (name : String) (count : Nat)
  /-- A predicate without a closing bracket. -/
  | unclosedPredicate
  /-- An opening parenthesis without a closing one. -/
  | unclosedParenthesis
  /-- Expressions nested beyond the limit. -/
  | tooDeep
  /-- Operators beyond the limit. -/
  | tooManyOperators
  /-- A variable.  None is ever defined. -/
  | undefinedVariable (name : String)
  /-- A value of another type where a node-set is wanted. -/
  | needsNodeSet (usage : NodeSetUse) (type : ValueType)
  /-- An argument that is not there. -/
  | missingArgument
  /-- A whole expression with a value of another type where nodes are wanted. -/
  | yieldsNoNodes (type : ValueType)
  /-- A text that is no tag or attribute name. -/
  | invalidName (name : String)

namespace Fault

/-- The kind of a fault. -/
def kind : Fault → FaultKind
  | .emptyExpression => .invalidExpression
  | .unexpectedCharacter _ => .invalidCharacter
  | .loneExclamation => .invalidExpression
  | .loneColon => .invalidExpression
  | .unterminatedLiteral => .unfinishedLiteral
  | .missingVariableName => .variableReference
  | .unexpectedToken _ => .invalidExpression
  | .unexpectedEnd => .invalidExpression
  | .notANodeTest _ => .invalidExpression
  | .unknownFunction _ => .unknownFunction
  | .unknownAxis _ => .invalidExpression
  | .missingParenthesis _ => .invalidExpression
  | .missingColons => .invalidExpression
  | .unboundPrefix _ => .undefinedPrefix
  | .wrongArity .. => .invalidArity
  | .unclosedPredicate => .invalidPredicate
  | .unclosedParenthesis => .unclosed
  | .tooDeep => .invalidExpression
  | .tooManyOperators => .invalidExpression
  | .undefinedVariable _ => .undefinedVariable
  | .needsNodeSet .. => .invalidType
  | .missingArgument => .invalidArity
  | .yieldsNoNodes _ => .invalidType
  | .invalidName _ => .invalidExpression

/-- The message of a fault. -/
def message : Fault → String
  | .emptyExpression => "empty expression"
  | .unexpectedCharacter c => "unexpected character '" ++ String.ofList [c] ++ "'"
  | .loneExclamation => "expected '=' after '!'"
  | .loneColon => "unexpected ':'"
  | .unterminatedLiteral => "unterminated string literal"
  | .missingVariableName => "expected a name after '$'"
  | .unexpectedToken token => "unexpected token '" ++ token.describe ++ "'"
  | .unexpectedEnd => "unexpected end of expression"
  | .notANodeTest token => "expected a node test, found '" ++ token.describe ++ "'"
  | .unknownFunction name => "unknown function '" ++ name ++ "'"
  | .unknownAxis name => "unknown axis '" ++ name ++ "'"
  | .missingParenthesis name => "expected '(' after '" ++ name ++ "'"
  | .missingColons => "expected '::' after axis name"
  | .unboundPrefix name => "namespace prefix in '" ++ name ++ "' is not bound"
  | .wrongArity name count => name ++ "() does not take " ++ toString count ++ " argument(s)"
  | .unclosedPredicate => "expected ']' to close predicate"
  | .unclosedParenthesis => "expected ')'"
  | .tooDeep => "expression nested too deeply"
  | .tooManyOperators => "expression has too many operators"
  | .undefinedVariable name => "variable '$" ++ name ++ "' is not defined"
  | .needsNodeSet usage type => usage.words ++ " needs a node-set, got a " ++ type.name
  | .missingArgument => "missing argument"
  | .yieldsNoNodes type => "expression yields a " ++ type.name ++ ", not a node-set"
  | .invalidName name => "'" ++ name ++ "' is not a valid tag or attribute name"

end Fault

/-- A fault and where it was noticed. -/
structure QueryError where
  /-- The cause. -/
  fault : Fault
  /-- The byte of the expression where the fault was noticed. -/
  position : Nat

namespace QueryError

/-- The kind of the failure. -/
def kind (e : QueryError) : FaultKind :=
  e.fault.kind

/-- The message of the failure. -/
def message (e : QueryError) : String :=
  e.fault.message

/-- The line that reports the failure. -/
def report (e : QueryError) : String :=
  e.kind.report e.message e.position

end QueryError

end HtmlQuery
