import HtmlQuery.Markup.Rules.Head

/-!
# In the body

Every start tag and every end tag has a rule, which `openingRule` and `closingRule` look up.  What a
start tag ends before its element begins, and what is ended with an end tag, is decided by the
elements that are open around.
-/

namespace HtmlQuery.Markup.Builder

open Text (isAsciiBlank)

/-! ## Rules -/

/-- What a start tag does in the body. -/
inductive OpeningRule where
  /-- Its attributes go to the `html` element. -/
  | root
  /-- Its element belongs to the head of a page and may stand here. -/
  | headPart
  /-- Its attributes go to the `body`. -/
  | body
  /-- Its element takes the place of the `body`. -/
  | frames
  /-- Its element ends the paragraph before it. -/
  | block
  /-- A heading. -/
  | heading
  /-- Text in lines, which may begin with a line end that does not count. -/
  | lines
  /-- A form. -/
  | form
  /-- An item of a list. -/
  | item
  /-- A term or a description. -/
  | definition
  /-- Text to the end. -/
  | plain
  /-- A button. -/
  | button
  /-- A link. -/
  | link
  /-- A formatting element. -/
  | formatting
  /-- A formatting element that is not in another one of its kind. -/
  | unbroken
  /-- An element that holds another page or program. -/
  | object
  /-- A table. -/
  | table
  /-- An element without content that is seen. -/
  | void
  /-- An element without content that says something of its parent. -/
  | hint
  /-- A control. -/
  | input
  /-- A line between paragraphs. -/
  | line
  /-- Another name for a picture. -/
  | picture
  /-- A text that is written by the reader. -/
  | area
  /-- Raw text in a block. -/
  | rawBlock
  /-- Another page. -/
  | frame
  /-- What is shown instead of something. -/
  | instead
  /-- A choice. -/
  | choice
  /-- A part of a choice. -/
  | option
  /-- A group of parts of a choice. -/
  | optionGroup
  /-- The base of an annotation. -/
  | rubyBase
  /-- The text of an annotation. -/
  | rubyText
  /-- A formula or a drawing. -/
  | foreign (vocabulary : Vocabulary)
  /-- It is dropped. -/
  | dropped
  /-- Its element goes on with the text. -/
  | ordinary
deriving DecidableEq, Repr

/-- The rules of the start tags. -/
def openingRules : List (List String × OpeningRule) :=
  [(["html"], .root), (headTags, .headPart), (["body"], .body), (["frameset"], .frames),
    ("p" :: sectionTags, .block), (headingTags, .heading), (["pre", "listing"], .lines),
    (["form"], .form), (["li"], .item), (["dd", "dt"], .definition), (["plaintext"], .plain),
    (["button"], .button), (["a"], .link), (formattingTags, .formatting), (["nobr"], .unbroken),
    (objectTags, .object), (["table"], .table),
    (["area", "br", "embed", "img", "keygen", "wbr"], .void),
    (["param", "source", "track"], .hint), (["input"], .input), (["hr"], .line),
    (["image"], .picture), (["textarea"], .area), (["xmp"], .rawBlock), (["iframe"], .frame),
    (["noembed"], .instead), (["select"], .choice), (["option"], .option),
    (["optgroup"], .optionGroup), (["rb", "rtc"], .rubyBase), (["rp", "rt"], .rubyText),
    (["math"], .foreign .math), (["svg"], .foreign .svg),
    ("frame" :: "head" :: tablePartTags, .dropped)]

/-- The rule of a start tag. -/
def openingRule (tag : String) : OpeningRule :=
  ((openingRules.find? (·.1.contains tag)).map (·.2)).getD .ordinary

/-- What an end tag does in the body. -/
inductive ClosingRule where
  /-- The end of a template. -/
  | template
  /-- The end of the `body`. -/
  | body
  /-- The end of the `html` element. -/
  | root
  /-- The end of a block. -/
  | block
  /-- The end of a form. -/
  | form
  /-- The end of a paragraph, which may be empty. -/
  | paragraph
  /-- The end of an item of a list. -/
  | item
  /-- The end of a term or a description. -/
  | definition
  /-- The end of a heading, of whichever level. -/
  | heading
  /-- The end of a formatting element. -/
  | formatting
  /-- The end of an element that holds another page or program. -/
  | object
  /-- A line break. -/
  | lineBreak
  /-- The end of an element that goes on with the text. -/
  | ordinary
deriving DecidableEq, Repr

/-- The rules of the end tags. -/
def closingRules : List (List String × ClosingRule) :=
  [(["template"], .template), (["body"], .body), (["html"], .root),
    (["button", "listing", "pre", "select"] ++ sectionTags, .block), (["form"], .form),
    (["p"], .paragraph), (["li"], .item), (["dd", "dt"], .definition), (headingTags, .heading),
    (["a", "nobr"] ++ formattingTags, .formatting), (objectTags, .object), (["br"], .lineBreak)]

/-- The rule of an end tag. -/
def closingRule (tag : String) : ClosingRule :=
  ((closingRules.find? (·.1.contains tag)).map (·.2)).getD .ordinary

/-! ## Start tags -/

/-- What keeps an item of a list from being ended by the next one. -/
def isAroundItem (e : OpenElement) : Bool :=
  isSpecial e && !(e.isAmong ["address", "div", "p"])

/-- Ends the item before the next one.  The tags are those of the items. -/
def leaveItem (b : Builder) (tags : List String) : Builder :=
  if reaches (·.isAmong tags) isAroundItem b.opened then
    match b.opened.find? (·.isAmong tags) with
    | some e => (b.leaveImpliedBut e.tag).leaveThrough [e.tag]
    | none => b
  else b

/-- Adds an element that goes on with the text. -/
def enterInText (b : Builder) (tag : Tag) : Builder :=
  b.reopenFormatting.enter tag

/-- Adds an element without content that goes on with the text. -/
def addInText (b : Builder) (tag : Tag) : Builder :=
  b.reopenFormatting.addVoid tag

/-- The `body`, if it is open. -/
def body? (b : Builder) : Option OpenElement :=
  match b.opened.reverse with
  | _ :: e :: _ => if e.isAmong ["body"] then some e else none
  | _ => none

/-- Gives the attributes of a start tag to the `body`. -/
def addToBody (b : Builder) (tag : Tag) : Builder :=
  match b.body? with
  | some e => if b.hasOpen "template" then b else (b.addAttributes e.number tag).forbidFrames
  | none => b

/-- Puts a set of frames in the place of the `body`, if nothing there is seen. -/
def replaceBody (b : Builder) (tag : Tag) : Builder :=
  match b.body? with
  | some e =>
    if b.framesAllowed then
      let b := b.redraft (·.detach e.number)
      ({ b with opened := b.root?.toList }.enter tag).toMode .frames
    else b
  | none => b

/-- Adds a form, unless it stands in another one. -/
def enterForm (b : Builder) (tag : Tag) : Builder :=
  if b.hasOpen "template" then b.leaveParagraph.enter tag
  else if b.form.isSome then b
  else
    let b := b.leaveParagraph
    { b.enter tag with form := some b.draft.size }

/-- Adds a button, after the one that is open. -/
def enterButton (b : Builder) (tag : Tag) : Builder :=
  let b := if b.inScope ["button"] then (b.leaveImplied impliedEndTags).leaveThrough ["button"]
    else b
  (b.enterInText tag).forbidFrames

/-- Adds a formatting element that is not in another one of its kind. -/
def enterUnbroken (b : Builder) (tag : Tag) : Builder :=
  let b := b.reopenFormatting
  let b := if b.inScope [tag.name] then (b.endFormatting tag.name).reopenFormatting else b
  b.enterFormatting tag

/-- Whether a control is not seen. -/
def isHidden (tag : Tag) : Bool :=
  (tag.attribute? "type").any (·.toLower == "hidden")

/-- Adds a control.  It ends the choice that it stands in. -/
def addInput (b : Builder) (tag : Tag) : Builder :=
  let b := if b.inScope ["select"] then b.leaveThrough ["select"] else b
  let b := b.addInText tag
  if isHidden tag then b else b.forbidFrames

/-- Adds a line between paragraphs. -/
def addLine (b : Builder) (tag : Tag) : Builder :=
  let b := b.leaveParagraph
  let b := if b.inScope ["select"] then b.leaveImplied impliedEndTags else b
  (b.addVoid tag).forbidFrames

/-- Adds a choice.  In another choice its start tag ends that one instead. -/
def enterChoice (b : Builder) (tag : Tag) : Builder :=
  if b.inScope ["select"] then b.leaveThrough ["select"]
  else (b.enterInText tag).forbidFrames

/-- Adds a part of a choice, after the one before it.  The tags are those of parts that may be
around it. -/
def enterOption (b : Builder) (tag : Tag) (around : List String) : Builder :=
  let b :=
    if b.inScope ["select"] then
      b.leaveImplied (impliedEndTags.filter fun name => !(around.contains name))
    else b.leaveIf ["option"]
  b.enterInText tag

/-- Adds a part of an annotation.  The tags are those of parts that may be around it. -/
def enterRuby (b : Builder) (tag : Tag) (around : List String) : Builder :=
  let b :=
    if b.inScope ["ruby"] then
      b.leaveImplied (impliedEndTags.filter fun name => !(around.contains name))
    else b
  b.enter tag

/-- Adds the element of a drawing or a formula.  A slash ends it. -/
def enterForeign (b : Builder) (vocabulary : Vocabulary) (tag : Tag) : Builder :=
  let attributes := foreignAttributes vocabulary tag.attributes
  let name := foreignTag vocabulary tag.name
  if tag.closed then b.addElement vocabulary name attributes
  else b.openElement vocabulary name attributes

/-- A start tag in the body, by its rule. -/
def openByRule (b : Builder) (tag : Tag) : OpeningRule → Builder
  | .root => b.addToRoot tag
  | .headPart => b.addHeadPart tag
  | .body => b.addToBody tag
  | .frames => b.replaceBody tag
  | .block => b.leaveParagraph.enter tag
  | .heading => (b.leaveParagraph.leaveIf headingTags).enter tag
  | .lines => { b.leaveParagraph.enter tag with skipsLineFeed := true, framesAllowed := false }
  | .form => b.enterForm tag
  | .item => ((b.leaveItem ["li"]).leaveParagraph.enter tag).forbidFrames
  | .definition => ((b.leaveItem ["dd", "dt"]).leaveParagraph.enter tag).forbidFrames
  | .plain => { b.leaveParagraph.enter tag with reading := .plain }
  | .button => b.enterButton tag
  | .link => b.endLink.reopenFormatting.enterFormatting tag
  | .formatting => b.reopenFormatting.enterFormatting tag
  | .unbroken => b.enterUnbroken tag
  | .object => (b.enterInText tag).addBarrier.forbidFrames
  | .table => ((if b.old then b else b.leaveParagraph).enter tag).forbidFrames.toMode .table
  | .void => (b.addInText tag).forbidFrames
  | .hint => b.addVoid tag
  | .input => b.addInput tag
  | .line => b.addLine tag
  | .picture => (b.addInText { tag with name := "img" }).forbidFrames
  | .area => { b.enterText tag (.text tag.name) with skipsLineFeed := true, framesAllowed := false }
  | .rawBlock => (b.leaveParagraph.reopenFormatting.enterText tag (.raw tag.name)).forbidFrames
  | .frame => (b.enterText tag (.raw tag.name)).forbidFrames
  | .instead => b.enterText tag (.raw tag.name)
  | .choice => b.enterChoice tag
  | .option => b.enterOption tag ["optgroup"]
  | .optionGroup => b.enterOption tag []
  | .rubyBase => b.enterRuby tag []
  | .rubyText => b.enterRuby tag ["rtc"]
  | .foreign vocabulary => b.enterForeign vocabulary tag
  | .dropped => b
  | .ordinary => b.enterInText tag

/-- A start tag in the body. -/
def openInBody (b : Builder) (tag : Tag) : Builder :=
  b.openByRule tag (openingRule tag.name)

/-! ## End tags -/

/-- Ends the form that has begun.  What is open in it stays open. -/
def endForm (b : Builder) : Builder :=
  if b.hasOpen "template" then
    if b.inScope ["form"] then (b.leaveImplied impliedEndTags).leaveThrough ["form"] else b
  else
    match b.form with
    | none => b
    | some n =>
      let b := { b with form := none }
      if b.numberInScope n then (b.leaveImplied impliedEndTags).close n else b

/-- Ends a block, and what is open in it. -/
def endBlock (b : Builder) (name : String) : Builder :=
  if b.inScope [name] then (b.leaveImplied impliedEndTags).leaveThrough [name] else b

/-- Ends an item. -/
def endItem (b : Builder) (name : String) (stops : List String) : Builder :=
  if b.inScopeOf name stops then (b.leaveImpliedBut name).leaveThrough [name] else b

/-- Ends a paragraph.  One that is not open is empty. -/
def endParagraph (b : Builder) : Builder :=
  (if b.inScopeOf "p" ["button"] then b else b.enterBare "p").closeParagraph

/-- Ends a heading. -/
def endHeading (b : Builder) : Builder :=
  if b.inScope headingTags then (b.leaveImplied impliedEndTags).leaveThrough headingTags else b

/-- Ends an element that holds another page or program. -/
def endObject (b : Builder) (name : String) : Builder :=
  if b.inScope [name] then (b.endBlock name).dropToBarrier else b

/-- Goes on after the `body`, if it is open. -/
def endBody (b : Builder) : Builder :=
  if b.inScope ["body"] then b.toMode .afterBody else b

/-- An end tag in the body, by its rule. -/
def closeByRule (b : Builder) (name : String) : ClosingRule → Outcome
  | .template => .done b.endTemplate
  | .body => .done b.endBody
  | .root => if b.inScope ["body"] then b.againIn .afterBody else .done b
  | .block => .done (b.endBlock name)
  | .form => .done b.endForm
  | .paragraph => .done b.endParagraph
  | .item => .done (b.endItem name ["ol", "ul"])
  | .definition => .done (b.endItem name [])
  | .heading => .done b.endHeading
  | .formatting => .done (b.endFormatting name)
  | .object => .done (b.endObject name)
  | .lineBreak => .done (b.openInBody ⟨name, [], false⟩)
  | .ordinary => .done (b.endOrdinary name)

/-! ## Tokens -/

/-- A character of a text in the body.  The null character is dropped. -/
def writeInBody (b : Builder) (c : Char) : Builder :=
  if c == '\x00' then b
  else if isAsciiBlank c then b.reopenFormatting.write c
  else (b.reopenFormatting.write c).forbidFrames

/-- A token in the body. -/
def takeInBody (b : Builder) : Token → Outcome
  | .comment content => .done (b.comment content)
  | .character c => .done (b.writeInBody c)
  | .opening tag => .done (b.openInBody tag)
  | .closing name => b.closeByRule name (closingRule name)
  | .doctype _ => .done b
  | .ending => b.endMarkup

/-- A token in an element that holds only text. -/
def takeInText (b : Builder) : Token → Outcome
  | .character c => .done (b.write c)
  | .closing _ => .done (b.leave.toMode b.afterText)
  | .ending => b.leave.againIn b.afterText
  | _ => .done b

end HtmlQuery.Markup.Builder
