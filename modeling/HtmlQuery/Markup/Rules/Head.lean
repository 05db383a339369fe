import HtmlQuery.Markup.Formatting

/-!
# Up to the body

A page has an `html` element with a `head` and a `body`, whether their tags are written or not.
Blanks before the `head` are dropped.  What belongs to the head goes there until the `body` begins,
and everything else begins the `body`.

An end tag that may not stand here is dropped, except one of `mayEndEarly`, which begins the `body`.
-/

namespace HtmlQuery.Markup.Builder

open Text (isAsciiBlank)

/-- The elements whose end tag begins what is still to come. -/
def mayEndEarly : List String :=
  ["head", "body", "html", "br"]

/-! ## Content of the head -/

/-- Adds an element that belongs to the head of a page, where it stands. -/
def addHeadPart (b : Builder) (tag : Tag) : Builder :=
  if tag.name == "title" then b.enterText tag (.text tag.name)
  else if tag.name == "script" then b.enterText tag (.script .code)
  else if tag.name == "template" then b.enterTemplate tag
  else if headVoidTags.contains tag.name then b.addVoid tag
  else b.enterText tag (.raw tag.name)

/-- Closes the innermost template and goes back to the mode around it. -/
def leaveTemplate (b : Builder) : Builder :=
  let b := (b.leaveThrough ["template"]).dropToBarrier
  { b with templates := b.templates.tail }.resetMode

/-- The end tag of a template. -/
def endTemplate (b : Builder) : Builder :=
  if b.hasOpen "template" then (b.leaveImplied templateEndTags).leaveTemplate else b

/-- The end of the markup.  It ends every open template. -/
def endMarkup (b : Builder) : Outcome :=
  if b.templates.isEmpty || !(b.hasOpen "template") then .done b else .again b.leaveTemplate

/-! ## Before the head -/

/-- Opens the `html` element. -/
def openRoot (b : Builder) (attributes : List Attribute) : Builder :=
  (b.openElement .html "html" attributes).toMode .beforeHead

/-- Opens the `head`. -/
def openHead (b : Builder) (attributes : List Attribute) : Builder :=
  let n := b.draft.size
  { (b.openElement .html "head" attributes).toMode .head with head := some n }

/-- Opens the `body`. -/
def openBody (b : Builder) (attributes : List Attribute) : Builder :=
  (b.openElement .html "body" attributes).toMode .body

/-- Goes on without a document type.  Such a page is old. -/
def skipDoctype (b : Builder) : Outcome :=
  { b with old := true }.againIn .beforeRoot

/-- A token before everything else. -/
def takeAtStart (b : Builder) : Token → Outcome
  | .comment content => .done (b.commentOutside content)
  | .character c => if isAsciiBlank c then .done b else b.skipDoctype
  | _ => b.skipDoctype

/-- A token before the `html` element. -/
def takeBeforeRoot (b : Builder) : Token → Outcome
  | .comment content => .done (b.commentOutside content)
  | .character c => if isAsciiBlank c then .done b else .again (b.openRoot [])
  | .opening tag =>
    if tag.name == "html" then .done (b.openRoot tag.attributes) else .again (b.openRoot [])
  | .closing name => if mayEndEarly.contains name then .again (b.openRoot []) else .done b
  | .doctype _ => .done b
  | .ending => .again (b.openRoot [])

/-- A token before the `head`. -/
def takeBeforeHead (b : Builder) : Token → Outcome
  | .comment content => .done (b.comment content)
  | .character c => if isAsciiBlank c then .done b else .again (b.openHead [])
  | .opening tag =>
    if tag.name == "html" then .done (b.addToRoot tag)
    else if tag.name == "head" then .done (b.openHead tag.attributes)
    else .again (b.openHead [])
  | .closing name => if mayEndEarly.contains name then .again (b.openHead []) else .done b
  | .doctype _ => .done b
  | .ending => .again (b.openHead [])

/-! ## In the head -/

/-- Closes the `head` before a token that does not belong to it. -/
def closeHead (b : Builder) : Outcome :=
  b.leave.againIn .afterHead

/-- A start tag in the `head`. -/
def openInHead (b : Builder) (tag : Tag) : Outcome :=
  if tag.name == "html" then .done (b.addToRoot tag)
  else if headTags.contains tag.name then .done (b.addHeadPart tag)
  else if tag.name == "noscript" then .done ((b.enter tag).toMode .noscript)
  else if tag.name == "head" then .done b
  else b.closeHead

/-- An end tag in the `head`. -/
def closeInHead (b : Builder) (name : String) : Outcome :=
  if name == "head" then .done (b.leave.toMode .afterHead)
  else if name == "template" then .done b.endTemplate
  else if mayEndEarly.contains name then b.closeHead
  else .done b

/-- A token in the `head`. -/
def takeInHead (b : Builder) : Token → Outcome
  | .comment content => .done (b.comment content)
  | .character c => if isAsciiBlank c then .done (b.write c) else b.closeHead
  | .opening tag => b.openInHead tag
  | .closing name => b.closeInHead name
  | .doctype _ => .done b
  | .ending => b.closeHead

/-- The elements that may stand in a `noscript` in the `head`. -/
def noscriptTags : List String :=
  ["basefont", "bgsound", "link", "meta", "noframes", "style"]

/-- Closes a `noscript` before a token that does not belong to it. -/
def closeNoscript (b : Builder) : Outcome :=
  b.leave.againIn .head

/-- A start tag in a `noscript` in the `head`. -/
def openInNoscript (b : Builder) (tag : Tag) : Outcome :=
  if tag.name == "html" then .done (b.addToRoot tag)
  else if noscriptTags.contains tag.name then .done (b.addHeadPart tag)
  else if tag.name == "head" || tag.name == "noscript" then .done b
  else b.closeNoscript

/-- A token in a `noscript` in the `head`. -/
def takeInNoscript (b : Builder) : Token → Outcome
  | .comment content => .done (b.comment content)
  | .character c => if isAsciiBlank c then .done (b.write c) else b.closeNoscript
  | .opening tag => b.openInNoscript tag
  | .closing name =>
    if name == "noscript" then .done (b.leave.toMode .head)
    else if name == "br" then b.closeNoscript
    else .done b
  | .doctype _ => .done b
  | .ending => b.closeNoscript

/-! ## After the head -/

/-- Adds an element that belongs to the head to the `head` that has ended. -/
def addToHead (b : Builder) (tag : Tag) : Builder :=
  match b.head with
  | none => b.addHeadPart tag
  | some n => ({ b with opened := ⟨n, .html, "head"⟩ :: b.opened }.addHeadPart tag).close n

/-- A start tag after the `head`. -/
def openAfterHead (b : Builder) (tag : Tag) : Outcome :=
  if tag.name == "html" then .done (b.addToRoot tag)
  else if tag.name == "body" then .done (b.openBody tag.attributes).forbidFrames
  else if tag.name == "frameset" then .done ((b.enter tag).toMode .frames)
  else if headTags.contains tag.name then .done (b.addToHead tag)
  else if tag.name == "head" then .done b
  else .again (b.openBody [])

/-- A token after the `head`. -/
def takeAfterHead (b : Builder) : Token → Outcome
  | .comment content => .done (b.comment content)
  | .character c => if isAsciiBlank c then .done (b.write c) else .again (b.openBody [])
  | .opening tag => b.openAfterHead tag
  | .closing name =>
    if name == "template" then .done b.endTemplate
    else if ["body", "html", "br"].contains name then .again (b.openBody [])
    else .done b
  | .doctype _ => .done b
  | .ending => .again (b.openBody [])

end HtmlQuery.Markup.Builder
