import HtmlQuery.Markup.Rules.Body

/-!
# In a table

A table has a caption, groups of columns and groups of rows.  The rows have cells, and a cell holds
content like a body.  A part that is not written where it is needed is added, and a part that cannot
go on is ended.  What is no part of the table goes before it, as content of the body.

The characters of a text are collected first: blanks stay in the table and every other text goes
before it.
-/

namespace HtmlQuery.Markup.Builder

open Text (isAsciiBlank)

/-- The end tags that mean nothing in a table, besides those of its parts. -/
def strayEndTags : List String :=
  ["body", "html"]

/-- What a row stands in. -/
def aroundRow : List String :=
  rowGroupTags ++ ["template", "html"]

/-- What a cell stands in. -/
def aroundCell : List String :=
  ["tr", "template", "html"]

/-! ## The table itself -/

/-- Takes a token by the rules of the body, with content that is out of place before the table. -/
def foster (b : Builder) (t : Token) : Outcome :=
  match { b with fostering := true }.takeInBody t with
  | .done b => .done { b with fostering := false }
  | .again b => .again { b with fostering := false }

/-- Takes a character in a table: into the text that is collected if it stands between parts. -/
def collect (b : Builder) (c : Char) : Outcome :=
  if b.isIn ("table" :: "tr" :: rowGroupTags) then
    { b with afterText := b.mode, pending := [] }.againIn .tableText
  else b.foster (.character c)

/-- Closes the table. -/
def leaveTable (b : Builder) : Builder :=
  (b.leaveThrough ["table"]).resetMode

/-- Adds a form that ends at once, unless there is one. -/
def addForm (b : Builder) (tag : Tag) : Builder :=
  if b.hasOpen "template" || b.form.isSome then b
  else { b.addVoid tag with form := some b.draft.size }

/-- Opens a part of a table, after those that end before it. -/
def openPart (b : Builder) (tag : Tag) : Outcome :=
  let b := b.leaveInside tableScopeTags
  if tag.name == "caption" then .done ((b.addBarrier.enter tag).toMode .caption)
  else if tag.name == "colgroup" then .done ((b.enter tag).toMode .columns)
  else if tag.name == "col" then (b.enterBare "colgroup").againIn .columns
  else if rowGroupTags.contains tag.name then .done ((b.enter tag).toMode .rows)
  else (b.enterBare "tbody").againIn .rows

/-- A start tag in a table. -/
def openInTable (b : Builder) (tag : Tag) : Outcome :=
  if tablePartTags.contains tag.name then b.openPart tag
  else if tag.name == "table" then if b.inTable ["table"] then .again b.leaveTable else .done b
  else if ["style", "script", "template"].contains tag.name then .done (b.addHeadPart tag)
  else if tag.name == "input" && isHidden tag then .done (b.addVoid tag)
  else if tag.name == "form" then .done (b.addForm tag)
  else b.foster (.opening tag)

/-- An end tag in a table. -/
def closeInTable (b : Builder) (name : String) : Outcome :=
  if name == "table" then .done (if b.inTable ["table"] then b.leaveTable else b)
  else if (strayEndTags ++ tablePartTags).contains name then .done b
  else if name == "template" then .done b.endTemplate
  else b.foster (.closing name)

/-- A token in a table. -/
def takeInTable (b : Builder) : Token → Outcome
  | .comment content => .done (b.comment content)
  | .character c => b.collect c
  | .opening tag => b.openInTable tag
  | .closing name => b.closeInTable name
  | .doctype _ => .done b
  | .ending => b.endMarkup

/-! ## Texts -/

/-- A character of a text that goes before the table. -/
def fosterCharacter (b : Builder) (c : Char) : Builder :=
  { { b with fostering := true }.writeInBody c with fostering := false }

/-- Adds the text that was collected. -/
def addPending (b : Builder) : Builder :=
  let text := b.pending.reverse
  let b := { b with pending := [] }.toMode b.afterText
  if text.all isAsciiBlank then text.foldl write b else text.foldl fosterCharacter b

/-- A token in a text in a table. -/
def takeInTableText (b : Builder) : Token → Outcome
  | .character c => .done (if c == '\x00' then b else { b with pending := c :: b.pending })
  | _ => .again b.addPending

/-! ## Captions and columns -/

/-- Closes the caption. -/
def leaveCaption (b : Builder) : Builder :=
  (((b.leaveImplied impliedEndTags).leaveThrough ["caption"]).dropToBarrier).toMode .table

/-- A token in a caption. -/
def takeInCaption (b : Builder) : Token → Outcome
  | .opening tag =>
    if tablePartTags.contains tag.name then
      if b.inTable ["caption"] then .again b.leaveCaption else .done b
    else b.takeInBody (.opening tag)
  | .closing name =>
    if name == "caption" then .done (if b.inTable ["caption"] then b.leaveCaption else b)
    else if name == "table" then if b.inTable ["caption"] then .again b.leaveCaption else .done b
    else if (strayEndTags ++ tablePartTags).contains name then .done b
    else b.takeInBody (.closing name)
  | t => b.takeInBody t

/-- Closes the group of columns before a token that does not belong to it. -/
def closeColumns (b : Builder) : Outcome :=
  if b.isIn ["colgroup"] then b.leave.againIn .table else .done b

/-- A token in a group of columns. -/
def takeInColumns (b : Builder) : Token → Outcome
  | .comment content => .done (b.comment content)
  | .character c => if isAsciiBlank c then .done (b.write c) else b.closeColumns
  | .opening tag =>
    if tag.name == "html" then .done (b.addToRoot tag)
    else if tag.name == "col" then .done (b.addVoid tag)
    else if tag.name == "template" then .done (b.addHeadPart tag)
    else b.closeColumns
  | .closing name =>
    if name == "colgroup" then
      .done (if b.isIn ["colgroup"] then b.leave.toMode .table else b)
    else if name == "col" then .done b
    else if name == "template" then .done b.endTemplate
    else b.closeColumns
  | .doctype _ => .done b
  | .ending => b.endMarkup

/-! ## Rows -/

/-- Closes the group of rows. -/
def leaveRows (b : Builder) : Builder :=
  ((b.leaveInside aroundRow).leave).toMode .table

/-- Closes the group of rows before a token that does not belong to it. -/
def closeRows (b : Builder) : Outcome :=
  if b.inTable ["table", "tbody", "tfoot"] then .again b.leaveRows else .done b

/-- A token in a group of rows. -/
def takeInRows (b : Builder) : Token → Outcome
  | .opening tag =>
    if tag.name == "tr" then .done (((b.leaveInside aroundRow).enter tag).toMode .row)
    else if cellTags.contains tag.name then
      ((b.leaveInside aroundRow).enterBare "tr").againIn .row
    else if tablePartTags.contains tag.name then b.closeRows
    else b.takeInTable (.opening tag)
  | .closing name =>
    if rowGroupTags.contains name then .done (if b.inTable [name] then b.leaveRows else b)
    else if name == "table" then b.closeRows
    else b.takeInTable (.closing name)
  | t => b.takeInTable t

/-- Closes the row. -/
def leaveRow (b : Builder) : Builder :=
  ((b.leaveInside aroundCell).leave).toMode .rows

/-- Closes the row before a token that does not belong to it. -/
def closeRow (b : Builder) : Outcome :=
  if b.inTable ["tr"] then .again b.leaveRow else .done b

/-- A token in a row. -/
def takeInRow (b : Builder) : Token → Outcome
  | .opening tag =>
    if cellTags.contains tag.name then
      .done (((b.leaveInside aroundCell).enter tag).addBarrier.toMode .cell)
    else if tablePartTags.contains tag.name then b.closeRow
    else b.takeInTable (.opening tag)
  | .closing name =>
    if name == "tr" then .done (if b.inTable ["tr"] then b.leaveRow else b)
    else if name == "table" then b.closeRow
    else if rowGroupTags.contains name then if b.inTable [name] then b.closeRow else .done b
    else b.takeInTable (.closing name)
  | t => b.takeInTable t

/-- Closes the cell. -/
def leaveCell (b : Builder) : Builder :=
  (((b.leaveImplied impliedEndTags).leaveThrough cellTags).dropToBarrier).toMode .row

/-- Ends the cell with this tag. -/
def endCell (b : Builder) (name : String) : Builder :=
  if b.inTable [name] then
    (((b.leaveImplied impliedEndTags).leaveThrough [name]).dropToBarrier).toMode .row
  else b

/-- A token in a cell. -/
def takeInCell (b : Builder) : Token → Outcome
  | .opening tag =>
    if tablePartTags.contains tag.name then
      if b.inTable cellTags then .again b.leaveCell else .done b
    else b.takeInBody (.opening tag)
  | .closing name =>
    if cellTags.contains name then .done (b.endCell name)
    else if (strayEndTags ++ ["caption", "col", "colgroup"]).contains name then .done b
    else if ("table" :: "tr" :: rowGroupTags).contains name then
      if b.inTable [name] then .again b.leaveCell else .done b
    else b.takeInBody (.closing name)
  | t => b.takeInBody t

end HtmlQuery.Markup.Builder
