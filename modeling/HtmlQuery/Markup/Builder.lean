import HtmlQuery.Markup.Content
import HtmlQuery.Markup.Draft
import HtmlQuery.Markup.Foreign
import HtmlQuery.Markup.Token.Reading

/-!
# Building a tree from tokens

A `Builder` is a draft of the tree with what decides where the next token goes: the elements that
have begun and not ended, the innermost first, the mode that says which rules hold, and the
formatting elements that begin again in the next paragraph.

This module has the moves that the rules are made of.  Whether an element is in scope is a walk
outwards that stops at some elements.  New content goes into the innermost element, but content that
is out of place in a table goes before the table (`spotIn`).
-/

namespace HtmlQuery.Markup

/-- The rules that hold.  They follow the parts of a page. -/
inductive Mode where
  /-- Nothing has been read. -/
  | start
  /-- The `html` element is still to come. -/
  | beforeRoot
  /-- The `head` is still to come. -/
  | beforeHead
  /-- In the `head`. -/
  | head
  /-- In a `noscript` in the `head`. -/
  | noscript
  /-- The `body` is still to come. -/
  | afterHead
  /-- In the `body`. -/
  | body
  /-- In an element that holds only text. -/
  | text
  /-- In a table. -/
  | table
  /-- In a text in a table. -/
  | tableText
  /-- In the caption of a table. -/
  | caption
  /-- In a group of columns. -/
  | columns
  /-- In a group of rows. -/
  | rows
  /-- In a row. -/
  | row
  /-- In a cell. -/
  | cell
  /-- In a template. -/
  | template
  /-- The `body` has ended. -/
  | afterBody
  /-- In a set of frames. -/
  | frames
  /-- The outermost set of frames has ended. -/
  | afterFrames
  /-- The `html` element has ended after a `body`. -/
  | afterBodyRoot
  /-- The `html` element has ended after a set of frames. -/
  | afterFramesRoot
deriving DecidableEq, Repr

/-- An open element. -/
structure OpenElement where
  /-- Its number in the draft. -/
  number : Nat
  /-- The language that it comes from. -/
  vocabulary : Vocabulary
  /-- Its tag. -/
  tag : String
deriving DecidableEq, Repr

/-- Whether it is an element of pages with one of these tags. -/
def OpenElement.isAmong (e : OpenElement) (tags : List String) : Bool :=
  e.vocabulary == .html && tags.contains e.tag

/-- An entry in the list of formatting elements. -/
inductive FormattingEntry where
  /-- What came before does not begin again from here on. -/
  | barrier
  /-- An element, with the tag that it begins again with. -/
  | element (number : Nat) (tag : Tag)
deriving Repr

/-- A tree in the making, with what decides where the next token goes. -/
structure Builder where
  /-- The draft. -/
  draft : Draft
  /-- The open elements, the innermost first. -/
  opened : List OpenElement := []
  /-- The formatting elements, the latest first. -/
  formatting : List FormattingEntry := []
  /-- The rules that hold. -/
  mode : Mode := .start
  /-- The rules that hold again after a text. -/
  afterText : Mode := .start
  /-- The rules that hold in each open template, the innermost first. -/
  templates : List Mode := []
  /-- How the next character is read. -/
  reading : Reading := .markup
  /-- The `head`. -/
  head : Option Nat := none
  /-- The form that has begun and not ended. -/
  form : Option Nat := none
  /-- The characters of a text in a table, the last first. -/
  pending : List Char := []
  /-- Whether a set of frames may still take the place of the `body`. -/
  framesAllowed : Bool := true
  /-- Whether content that is out of place in a table goes before it. -/
  fostering : Bool := false
  /-- Whether a line feed that comes next is dropped. -/
  skipsLineFeed : Bool := false
  /-- Whether a table may stand in a paragraph. -/
  old : Bool := false
  /-- Whether the markup is a part of a `body`. -/
  isFragment : Bool := false

/-- What becomes of a token. -/
inductive Outcome where
  /-- It has been taken. -/
  | done (b : Builder)
  /-- It is still to be taken, by the rules that hold now. -/
  | again (b : Builder)

namespace Builder

/-! ## Open elements -/

/-- Changes the draft. -/
def redraft (b : Builder) (f : Draft → Draft) : Builder :=
  { b with draft := f b.draft }

/-- Whether the innermost element has one of these tags. -/
def isIn (b : Builder) (tags : List String) : Bool :=
  b.opened.head?.any (·.isAmong tags)

/-- Whether an element with this tag is open. -/
def hasOpen (b : Builder) (tag : String) : Bool :=
  b.opened.any (·.isAmong [tag])

/-- Whether the element with this number is open. -/
def isOpen (b : Builder) (n : Nat) : Bool :=
  b.opened.any (·.number == n)

/-- Closes the innermost element. -/
def leave (b : Builder) : Builder :=
  { b with opened := b.opened.tail }

/-- Closes the elements inside the nearest one with one of these tags. -/
def leaveInside (b : Builder) (tags : List String) : Builder :=
  { b with opened := b.opened.dropWhile fun e => !(e.isAmong tags) }

/-- Closes the nearest element with one of these tags and all inside it. -/
def leaveThrough (b : Builder) (tags : List String) : Builder :=
  (b.leaveInside tags).leave

/-- Closes the innermost element if it has one of these tags. -/
def leaveIf (b : Builder) (tags : List String) : Builder :=
  if b.isIn tags then b.leave else b

/-- Closes the innermost elements as long as they have one of these tags. -/
def leaveImplied (b : Builder) (tags : List String) : Builder :=
  { b with opened := b.opened.dropWhile (·.isAmong tags) }

/-- Closes the innermost elements that end by themselves, but none with this tag. -/
def leaveImpliedBut (b : Builder) (tag : String) : Builder :=
  b.leaveImplied (impliedEndTags.filter (· != tag))

/-- Takes an element out of the open ones. -/
def close (b : Builder) (n : Nat) : Builder :=
  { b with opened := b.opened.filter (·.number != n) }

/-- Changes the mode. -/
def toMode (b : Builder) (mode : Mode) : Builder :=
  { b with mode := mode }

/-- Takes the token by the rules of another mode. -/
def againIn (b : Builder) (mode : Mode) : Outcome :=
  .again (b.toMode mode)

/-- Sets of frames may not take the place of the `body` any more. -/
def forbidFrames (b : Builder) : Builder :=
  { b with framesAllowed := false }

/-! ## Scope -/

/-- Whether a walk outwards comes to a target before it has passed a stop. -/
def reaches (target stop : OpenElement → Bool) : List OpenElement → Bool
  | [] => false
  | e :: outer => target e || !(stop e) && reaches target stop outer

/-- What keeps what is inside from ending what is outside. -/
def isScope (e : OpenElement) : Bool :=
  e.isAmong scopeTags || holdsText e.vocabulary e.tag || holdsContent e.vocabulary e.tag

/-- Whether an element with one of these tags is in scope. -/
def inScope (b : Builder) (tags : List String) : Bool :=
  reaches (·.isAmong tags) isScope b.opened

/-- Whether an element with this tag is in scope, and some more tags are stops. -/
def inScopeOf (b : Builder) (tag : String) (stops : List String) : Bool :=
  reaches (·.isAmong [tag]) (fun e => isScope e || e.isAmong stops) b.opened

/-- Whether an element with one of these tags is in the table. -/
def inTable (b : Builder) (tags : List String) : Bool :=
  reaches (·.isAmong tags) (·.isAmong tableScopeTags) b.opened

/-- Whether the element with this number is in scope. -/
def numberInScope (b : Builder) (n : Nat) : Bool :=
  reaches (·.number == n) isScope b.opened

/-- Ends the paragraph that is open. -/
def closeParagraph (b : Builder) : Builder :=
  (b.leaveImpliedBut "p").leaveThrough ["p"]

/-- Ends the paragraph around, if there is one. -/
def leaveParagraph (b : Builder) : Builder :=
  if b.inScopeOf "p" ["button"] then b.closeParagraph else b

/-! ## Content -/

/-- Where content that is out of place in a table goes: before the table if it is in the tree, or
else into what is around it.  A template nearer than the table holds it. -/
def fosterSpot (d : Draft) : List OpenElement → Spot
  | [] => .under 0
  | [root] => .under (d.holder root.number)
  | e :: outer :: more =>
    if e.isAmong ["template"] then .under (d.holder e.number)
    else if e.isAmong ["table"] then
      if (d.parent? e.number).isSome then .before e.number else .under outer.number
    else fosterSpot d (outer :: more)

/-- Where new content of an element goes. -/
def spotIn (b : Builder) (e : OpenElement) : Spot :=
  if b.fostering && e.isAmong ("table" :: "tr" :: rowGroupTags) then fosterSpot b.draft b.opened
  else .under (b.draft.holder e.number)

/-- Where new content goes. -/
def spot (b : Builder) : Spot :=
  match b.opened with
  | [] => .under 0
  | e :: _ => b.spotIn e

/-- Adds a character of a text. -/
def write (b : Builder) (c : Char) : Builder :=
  let spot := b.spot
  b.redraft (·.write spot c)

/-- Adds a comment there. -/
def commentAt (b : Builder) (spot : Spot) (content : String) : Builder :=
  b.redraft (·.add spot (.comment content))

/-- Adds a comment. -/
def comment (b : Builder) (content : String) : Builder :=
  b.commentAt b.spot content

/-- Adds a comment beside the `html` element. -/
def commentOutside (b : Builder) (content : String) : Builder :=
  b.commentAt (.under 0) content

/-- Makes an element that is not in the tree yet. -/
def makeElement (d : Draft) (vocabulary : Vocabulary) (tag : String)
    (attributes : List Attribute) : Draft :=
  let label := Label.element vocabulary tag attributes
  if vocabulary == .html && tag == "template" then d.makeTemplate label else d.make label

/-- Adds an element that ends at once. -/
def addElement (b : Builder) (vocabulary : Vocabulary) (tag : String)
    (attributes : List Attribute) : Builder :=
  let n := b.draft.size
  let spot := b.spot
  b.redraft fun d => (makeElement d vocabulary tag attributes).place spot n

/-- Adds an element, which is then open. -/
def openElement (b : Builder) (vocabulary : Vocabulary) (tag : String)
    (attributes : List Attribute) : Builder :=
  let e : OpenElement := ⟨b.draft.size, vocabulary, tag⟩
  let b := b.addElement vocabulary tag attributes
  { b with opened := e :: b.opened }

/-- Adds the element of a start tag. -/
def enter (b : Builder) (tag : Tag) : Builder :=
  b.openElement .html tag.name tag.attributes

/-- Adds an element whose start tag is not written. -/
def enterBare (b : Builder) (tag : String) : Builder :=
  b.openElement .html tag []

/-- Adds the element of a start tag, which ends at once. -/
def addVoid (b : Builder) (tag : Tag) : Builder :=
  b.addElement .html tag.name tag.attributes

/-- Adds an element that holds only text. -/
def enterText (b : Builder) (tag : Tag) (reading : Reading) : Builder :=
  { b.enter tag with reading := reading, afterText := b.mode, mode := .text }

/-- The `html` element. -/
def root? (b : Builder) : Option OpenElement :=
  b.opened.getLast?

/-- Gives attributes to an open element. -/
def addAttributes (b : Builder) (n : Nat) (tag : Tag) : Builder :=
  b.redraft (·.addAttributes n tag.attributes)

/-- Gives the attributes of a start tag to the `html` element. -/
def addToRoot (b : Builder) (tag : Tag) : Builder :=
  match b.root? with
  | some root => if b.hasOpen "template" then b else b.addAttributes root.number tag
  | none => b

/-! ## Modes -/

/-- The mode that an element brings about. -/
def modeOf? (b : Builder) (e : OpenElement) : Option Mode :=
  if e.isAmong cellTags then some .cell
  else if e.isAmong ["tr"] then some .row
  else if e.isAmong rowGroupTags then some .rows
  else if e.isAmong ["caption"] then some .caption
  else if e.isAmong ["colgroup"] then some .columns
  else if e.isAmong ["table"] then some .table
  else if e.isAmong ["template"] then b.templates.head?
  else if e.isAmong ["head"] then some .head
  else if e.isAmong ["body"] then some .body
  else if e.isAmong ["frameset"] then some .frames
  else if e.isAmong ["html"] then
    if b.isFragment then some .body else if b.head.isNone then some .beforeHead else some .afterHead
  else none

/-- Goes back to the mode that the open elements bring about. -/
def resetMode (b : Builder) : Builder :=
  b.toMode ((b.opened.findSome? b.modeOf?).getD .body)

/-- Begins a template. -/
def enterTemplate (b : Builder) (tag : Tag) : Builder :=
  let b := (b.enter tag).forbidFrames
  { b with
    formatting := .barrier :: b.formatting
    mode := .template
    templates := .template :: b.templates }

end Builder

end HtmlQuery.Markup
