import HtmlQuery.Document
import HtmlQuery.Query.Basic

/-!
# Reporting matches

The command line reads a page, selects nodes with an expression, and writes one line: an array with
an object for every node.  An object has the tag, the attributes in the order of their names, and
the text.  If there is no answer, a line says why instead.
-/

namespace HtmlQuery.Report

/-! ## Objects -/

/-- A digit of sixteen, in lower case. -/
def hexDigit (n : Nat) : Char :=
  Nat.digitChar n

/-- One character of a text between double quotes.  Quotes, backslashes and control characters are
escaped. -/
def escapeChar (c : Char) : List Char :=
  if c == '"' then ['\\', '"']
  else if c == '\\' then ['\\', '\\']
  else if c == '\x08' then ['\\', 'b']
  else if c == '\t' then ['\\', 't']
  else if c == '\n' then ['\\', 'n']
  else if c == '\x0c' then ['\\', 'f']
  else if c == '\r' then ['\\', 'r']
  else if c.toNat < 0x20 then
    ['\\', 'u', '0', '0', hexDigit (c.toNat / 16), hexDigit (c.toNat % 16)]
  else [c]

/-- A text between double quotes. -/
def text (s : String) : String :=
  String.ofList ('"' :: s.toList.flatMap escapeChar ++ ['"'])

/-- An object, given its names and what is written for their values. -/
def object (fields : List (String × String)) : String :=
  "\x7b" ++ ",".intercalate (fields.map fun (name, value) => text name ++ ":" ++ value) ++ "\x7d"

/-- An array, given what is written for its items. -/
def array (items : List String) : String :=
  "[" ++ ",".intercalate items ++ "]"

/-- The object of a node. -/
def ofNode (n : Node) : String :=
  object
    [("tag", (n.tagName?.map text).getD "null"),
      ("attributes", object (n.attributeMap.map fun a => (a.name, text a.value))),
      ("text", text n.text)]

/-! ## Runs -/

/-- What a run of the command writes, and the code that it ends with. -/
structure Outcome where
  /-- The code. -/
  code : Nat
  /-- What is written as the answer. -/
  output : String
  /-- What is written as the reason why there is none. -/
  errors : String
deriving DecidableEq, Repr

/-- A run that answers with a line. -/
def answer (line : String) : Outcome :=
  ⟨0, line ++ "\n", ""⟩

/-- A run that ends with a code and a line that says why. -/
def failure (code : Nat) (line : String) : Outcome :=
  ⟨code, "", line ++ "\n"⟩

/-- The run without an expression. -/
def usage : Outcome :=
  failure 2 "Usage: query_stdin <xpath-expression> < input.html"

/-- The run for a page that cannot be read. -/
def noInput : Outcome :=
  failure 1 "Failed to read from stdin"

/-- The nodes that an expression selects from the root of a document. -/
def select (d : Document) (expression : String) : Except QueryError (List Node) :=
  (d.root?.getD d.node).select expression

variable [Encoding.MultiByteReader]

/-- The run for an expression and the bytes of a page. -/
def run (expression : String) (bytes : List UInt8) : Outcome :=
  match Document.ofBytes {} bytes with
  | .error e => failure 1 e.message
  | .ok d =>
    match select d expression with
    | .error e => failure 1 e.report
    | .ok nodes => answer (array (nodes.map ofNode))

/-- The run for some arguments and the bytes of a page, if they can be read.  The first argument is
the expression. -/
def command (args : List String) (source : Option (List UInt8)) : Outcome :=
  match args, source with
  | [], _ => usage
  | _ :: _, none => noInput
  | expression :: _, some bytes => run expression bytes

/-- The command has no tables for the encodings of East Asia.  It reads their ASCII and nothing
else. -/
instance asciiReader : Encoding.MultiByteReader where
  read _ bytes := bytes.map fun b => if b < 0x80 then some (Char.ofNat b.toNat) else none

end HtmlQuery.Report
