import HtmlQuery.Encoding.Declaration
import HtmlQuery.Markup.Page
import HtmlQuery.Markup.Printer
import HtmlQuery.Text.Quoted

/-!
# Documents

A `Document` is a tree that was read from markup, with the way in which it was read.  Reading
decodes the bytes, refuses a text without anything but blanks, and builds the tree.  Either all of
this succeeds or the first failure is the answer.

The root of a page is its `html` element.  The root of a fragment is the first element of the
fragment, and a fragment has no head and no body.
-/

namespace HtmlQuery

/-- What markup is read as. -/
inductive DocumentKind where
  /-- A whole page. -/
  | page
  /-- A part of a page. -/
  | fragment
deriving DecidableEq, Repr

/-- The name of a kind. -/
def DocumentKind.name : DocumentKind → String
  | .page => "Document"
  | .fragment => "Fragment"

/-- How markup is read. -/
structure LoadOptions where
  /-- The label of the encoding, or nothing if the markup says what it is. -/
  encoding : Option String := none
  /-- What the markup is read as. -/
  kind : DocumentKind := .page
  /-- Whether bytes that stand for nothing are an error. -/
  strict : Bool := false
  /-- Whether there must be a root element. -/
  requireRoot : Bool := true
deriving DecidableEq, Repr

/-- Why there is no document. -/
inductive LoadError where
  /-- There is nothing to read but blanks. -/
  | emptyInput
  /-- The bytes cannot be read as text. -/
  | invalidInput (cause : EncodingError)
  /-- There is no element. -/
  | noRootElement
  /-- The source cannot be read. -/
  | unreadable
deriving DecidableEq, Repr

/-- The wording of an error. -/
def LoadError.message : LoadError → String
  | .emptyInput => "Empty input"
  | .invalidInput cause => "Invalid input: " ++ cause.message
  | .noRootElement => "No root element found"
  | .unreadable => "Unreadable source"

/-- A tree that was read from markup. -/
structure Document where
  /-- The tree. -/
  tree : Tree
  /-- What the markup was read as. -/
  kind : DocumentKind
  /-- The encoding that the markup was in. -/
  encoding : Encoding

namespace Document

/-! ## Parts -/

/-- The node above the root.  A document is the only tree that its nodes are compared in. -/
def node (d : Document) : Node :=
  .inner (.ofTree ⟨0⟩ d.tree)

/-- The root element. -/
def root? (d : Document) : Option Node := do
  let first ← d.node.elementChildren.head?
  match d.kind with
  | .page => some first
  | .fragment => if first.hasTag "html" then first.elementChildren.head? else some first

/-- The first child with a tag of the root of a page. -/
def part? (d : Document) (tag : String) : Option Node := do
  match d.kind with
  | .page => (← d.root?).elementChildren.find? (·.hasTag tag)
  | .fragment => none

/-- The head of a page. -/
def head? (d : Document) : Option Node :=
  d.part? "head"

/-- The body of a page. -/
def body? (d : Document) : Option Node :=
  d.part? "body"

/-- The text of the title of a page. -/
def title? (d : Document) : Option String := do
  let title ← (← d.head?).elementChildren.find? (·.hasTag "title")
  some title.text

/-- The markup of the whole tree. -/
def markup (d : Document) : String :=
  d.node.markup

/-- A line that says how the document was read. -/
def summary (d : Document) : String :=
  "Document \x7b kind: " ++ d.kind.name ++ ", encoding: " ++ Text.quoted d.encoding.name ++
    ", .. \x7d"

/-! ## Reading -/

/-- The document in a text that was in an encoding. -/
def ofDecoded (encoding : Encoding) (options : LoadOptions) (text : String) :
    Except LoadError Document :=
  if (Text.trim text).isEmpty then .error .emptyInput
  else
    let tree :=
      match options.kind with
      | .page => Markup.treeOfPage text
      | .fragment => Markup.treeOfFragment text
    let document : Document := ⟨tree, options.kind, encoding⟩
    if options.requireRoot && document.root?.isNone then .error .noRootElement
    else .ok document

/-- The document in a text.  How bytes are decoded does not matter here. -/
def ofText (options : LoadOptions) (text : String) : Except LoadError Document :=
  ofDecoded .utf8 options text

/-- The encoding that bytes are in: the one asked for, or else the one they declare. -/
def encodingOf (options : LoadOptions) (bytes : List UInt8) : Except EncodingError Encoding :=
  match options.encoding with
  | some label => Encoding.lookUp label
  | none => .ok (Encoding.detect bytes)

variable [Encoding.MultiByteReader]

/-- The document in some bytes. -/
def ofBytes (options : LoadOptions) (bytes : List UInt8) : Except LoadError Document :=
  if bytes.isEmpty then .error .emptyInput
  else
    match encodingOf options bytes with
    | .error e => .error (.invalidInput e)
    | .ok encoding =>
      match encoding.decode options.strict bytes with
      | .error e => .error (.invalidInput e)
      | .ok text => ofDecoded encoding options text

/-- The document in the bytes of a source, if they can be read. -/
def ofSource (options : LoadOptions) (source : Option (List UInt8)) : Except LoadError Document :=
  match source with
  | none => .error .unreadable
  | some bytes => ofBytes options bytes

end Document

end HtmlQuery
