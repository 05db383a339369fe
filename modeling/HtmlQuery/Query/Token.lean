import HtmlQuery.Decimal.Text
import HtmlQuery.Text.Quoted

/-!
# Tokens of an expression

A token is a symbol with one fixed spelling or carries what it was read from.  Names come in four
kinds, told apart by what stands around them: a plain name, the name of a function, of a node type
and of an axis.
-/

namespace HtmlQuery

/-- The tokens with one spelling. -/
inductive Symbol where
  | leftParen
  | rightParen
  | leftBracket
  | rightBracket
  | dot
  | dotDot
  | atSign
  | comma
  | colonColon
  | slash
  | doubleSlash
  | pipe
  | plus
  | minus
  | multiply
  | equal
  | notEqual
  | less
  | lessEqual
  | greater
  | greaterEqual
  | and
  | or
  | mod
  | div
deriving DecidableEq, Repr

/-- The spelling of a symbol. -/
def Symbol.spelling : Symbol → String
  | .leftParen => "("
  | .rightParen => ")"
  | .leftBracket => "["
  | .rightBracket => "]"
  | .dot => "."
  | .dotDot => ".."
  | .atSign => "@"
  | .comma => ","
  | .colonColon => "::"
  | .slash => "/"
  | .doubleSlash => "//"
  | .pipe => "|"
  | .plus => "+"
  | .minus => "-"
  | .multiply => "*"
  | .equal => "="
  | .notEqual => "!="
  | .less => "<"
  | .lessEqual => "<="
  | .greater => ">"
  | .greaterEqual => ">="
  | .and => "and"
  | .or => "or"
  | .mod => "mod"
  | .div => "div"

/-- What diagnostics call a symbol. -/
def Symbol.label : Symbol → String
  | .leftParen => "LeftParen"
  | .rightParen => "RightParen"
  | .leftBracket => "LeftBracket"
  | .rightBracket => "RightBracket"
  | .dot => "Dot"
  | .dotDot => "DotDot"
  | .atSign => "At"
  | .comma => "Comma"
  | .colonColon => "ColonColon"
  | .slash => "Slash"
  | .doubleSlash => "DoubleSlash"
  | .pipe => "Pipe"
  | .plus => "Plus"
  | .minus => "Minus"
  | .multiply => "Multiply"
  | .equal => "Equal"
  | .notEqual => "NotEqual"
  | .less => "Less"
  | .lessEqual => "LessEqual"
  | .greater => "Greater"
  | .greaterEqual => "GreaterEqual"
  | .and => "And"
  | .or => "Or"
  | .mod => "Mod"
  | .div => "Div"

/-- A token of an expression. -/
inductive Token where
  /-- A symbol. -/
  | symbol (symbol : Symbol)
  /-- A number. -/
  | number (value : Float)
  /-- A text between quotes, without them. -/
  | literal (text : String)
  /-- A name, `*`, or a prefix and `*`. -/
  | name (name : String)
  /-- A name after a dollar sign. -/
  | variable (name : String)
  /-- A name before an opening parenthesis. -/
  | function (name : String)
  /-- The name of a node type before an opening parenthesis. -/
  | nodeType (name : String)
  /-- A name before two colons. -/
  | axis (name : String)

namespace Token

/-- Whether an operand can end with the token.  After such a token `*`, `and`, `or`, `div` and
`mod` are operators. -/
def endsOperand : Token → Bool
  | .symbol .rightParen => true
  | .symbol .rightBracket => true
  | .symbol .dot => true
  | .symbol .dotDot => true
  | .symbol _ => false
  | .number _ => true
  | .literal _ => true
  | .name _ => true
  | .variable _ => true
  | .nodeType _ => true
  | .function _ => false
  | .axis _ => false

/-- What diagnostics call the kind of a token. -/
def label : Token → String
  | .symbol s => s.label
  | .number _ => "Number"
  | .literal _ => "Literal"
  | .name _ => "Name"
  | .variable _ => "Variable"
  | .function _ => "Function"
  | .nodeType _ => "NodeType"
  | .axis _ => "Axis"

/-- The text that a token carries, if it carries one. -/
def text? : Token → Option String
  | .symbol _ => none
  | .number _ => none
  | .literal text => some text
  | .name text => some text
  | .variable text => some text
  | .function text => some text
  | .nodeType text => some text
  | .axis text => some text

/-- A token as diagnostics show it: its kind, and what it carries between parentheses. -/
def describe (t : Token) : String :=
  match t with
  | .number value => t.label ++ "(" ++ Decimal.exact value ++ ")"
  | _ =>
    match t.text? with
    | some text => t.label ++ "(" ++ Text.quoted text ++ ")"
    | none => t.label

end Token

/-- A token and the byte that it begins at. -/
structure Located where
  /-- The token. -/
  token : Token
  /-- The byte of the expression that the token begins at. -/
  position : Nat

end HtmlQuery
