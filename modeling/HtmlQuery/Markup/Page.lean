import HtmlQuery.Markup.Legacy
import HtmlQuery.Markup.Rules.Foreign

/-!
# From markup to a tree

`treeOfPage` is the tree of a whole page and `treeOfFragment` that of a part of a body, which stands
under an `html` element.  Every character is read as the open elements say, and its tokens are taken
one after the other.
-/

namespace HtmlQuery.Markup

/-! ## Characters -/

/-- A text with every line end written as a line feed. -/
def unifyLineEnds : List Char → List Char
  | [] => []
  | '\r' :: '\n' :: cs => '\n' :: unifyLineEnds cs
  | '\r' :: cs => '\n' :: unifyLineEnds cs
  | c :: cs => c :: unifyLineEnds cs

/-- A text without the byte-order mark at its front. -/
def dropMark : List Char → List Char
  | '\uFEFF' :: cs => cs
  | cs => cs

namespace Builder

/-! ## Tokens -/

/-- A page of which nothing has been read. -/
def ofPage : Builder :=
  { draft := .ofTop .document }

/-- A fragment of which nothing has been read. -/
def ofFragment : Builder :=
  let b : Builder := { draft := .ofTop .fragment, isFragment := true }
  (b.openElement .html "html" []).toMode .body

/-- Takes a token by the rules that hold. -/
def takeOnce (b : Builder) (t : Token) : Outcome :=
  if b.isForeign t then b.takeInForeign t else b.takeByMode t

/-- Takes a token, by at most so many rules. -/
def takeWithin : Nat → Builder → Token → Builder
  | 0, b, _ => b
  | rules + 1, b, t =>
    match b.takeOnce t with
    | .done b => b
    | .again b => b.takeWithin rules t

/-- How many rules a token is taken by at most.  A rule that passes a token on closes an element or
goes on to a later part of the page. -/
def maxRules (b : Builder) : Nat :=
  2 * b.draft.size + 16

/-- Adds a document type declaration, which counts only at the start. -/
def addDoctype (b : Builder) (d : Doctype) : Builder :=
  match b.mode with
  | .start =>
    let b := b.redraft (·.add (.under 0) (.doctype (d.name.getD "")))
    { b with old := d.isOld, mode := .beforeRoot }
  | _ => b

/-- Whether a token is a line feed. -/
def isLineFeed : Token → Bool
  | .character c => c == '\n'
  | _ => false

/-- Takes a token. -/
def take (b : Builder) (t : Token) : Builder :=
  if b.skipsLineFeed && isLineFeed t then { b with skipsLineFeed := false }
  else
    let b := { b with skipsLineFeed := false }
    match t with
    | .doctype d => b.addDoctype d
    | t => b.takeWithin b.maxRules t

/-- Takes the tokens of a text. -/
def read (b : Builder) : List Char → Builder
  | [] => b.take .ending
  | c :: cs =>
    match readTokens b.reading b.inForeign c cs with
    | ⟨(tokens, reading), rest, _⟩ => (tokens.foldl take { b with reading := reading }).read rest
termination_by s => s.length

/-- The tree of a text. -/
def treeOf (b : Builder) (text : String) : Tree :=
  (b.read (unifyLineEnds (dropMark text.toList))).draft.tree

end Builder

/-- The tree of a page. -/
def treeOfPage (text : String) : Tree :=
  Builder.ofPage.treeOf text

/-- The tree of a fragment. -/
def treeOfFragment (text : String) : Tree :=
  Builder.ofFragment.treeOf text

end HtmlQuery.Markup
