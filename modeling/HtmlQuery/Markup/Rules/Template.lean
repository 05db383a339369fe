import HtmlQuery.Markup.Rules.Body

/-!
# In a template

A template holds parts of any element, and its first tag says of which.  The rules that hold in it
are those inside that element.
-/

namespace HtmlQuery.Markup.Builder

/-- The mode that a start tag brings about in a template. -/
def templateMode (tag : String) : Mode :=
  if ("caption" :: "colgroup" :: rowGroupTags).contains tag then .table
  else if tag == "col" then .columns
  else if tag == "tr" then .rows
  else if cellTags.contains tag then .row
  else .body

/-- A start tag in a template. -/
def openInTemplate (b : Builder) (tag : Tag) : Outcome :=
  if headTags.contains tag.name then .done (b.addHeadPart tag)
  else
    let mode := templateMode tag.name
    { b with templates := mode :: b.templates.tail }.againIn mode

/-- A token in a template. -/
def takeInTemplate (b : Builder) : Token → Outcome
  | .opening tag => b.openInTemplate tag
  | .closing name => .done (if name == "template" then b.endTemplate else b)
  | .ending => b.endMarkup
  | t => b.takeInBody t

end HtmlQuery.Markup.Builder
