import HtmlQuery.Markup.Rules.Mode

/-!
# In a drawing or a formula

A tag in a drawing or a formula is one of its language, unless the element holds content of a page.
The start tags of some elements of pages end the drawing or the formula.  An end tag ends the
nearest element with this tag, and what is around the drawing or the formula goes by its own rules.
-/

namespace HtmlQuery.Markup.Builder

open Text (isAsciiBlank)

/-- Whether an element takes a token as content of a page. -/
def takesAsContent (d : Draft) (e : OpenElement) : Token → Bool
  | .character _ =>
    holdsText e.vocabulary e.tag || holdsContent e.vocabulary e.tag || isAnnotation e
  | .opening tag =>
    holdsText e.vocabulary e.tag && !(["mglyph", "malignmark"].contains tag.name) ||
      holdsContent e.vocabulary e.tag || isAnnotation e ||
      tag.name == "svg" && e.vocabulary == .math && e.tag == "annotation-xml"
  | _ => false
where
  /-- Whether it is an annotation that holds content of a page. -/
  isAnnotation (e : OpenElement) : Bool :=
    e.vocabulary == .math && e.tag == "annotation-xml" && annotatesContent (d.attributes e.number)

/-- Whether a token is one of the language of a drawing or a formula. -/
def isForeign (b : Builder) (t : Token) : Bool :=
  match t, b.opened with
  | .ending, _ => false
  | _, [] => false
  | t, e :: _ => e.vocabulary != .html && !(takesAsContent b.draft e t)

/-- Whether the innermost element is one of a drawing or a formula. -/
def inForeign (b : Builder) : Bool :=
  b.opened.head?.any (·.vocabulary != .html)

/-- Whether content of a page may stand in an element. -/
def mayHoldContent (e : OpenElement) : Bool :=
  e.vocabulary == .html || holdsText e.vocabulary e.tag || holdsContent e.vocabulary e.tag

/-- Ends the drawing or the formula, and takes the token by the rules around it. -/
def leaveForeign (b : Builder) (t : Token) : Outcome :=
  { b with opened := b.opened.dropWhile (!mayHoldContent ·) }.takeByMode t

/-- A start tag in a drawing or a formula. -/
def openInForeign (b : Builder) (tag : Tag) : Outcome :=
  if leavesForeign tag then b.leaveForeign (.opening tag)
  else
    match b.opened with
    | [] => .done b
    | e :: _ => .done (b.enterForeign e.vocabulary tag)

/-- Ends the nearest element with a tag among these open elements.  An element of pages outside the
innermost one goes by its own rules, and the `html` element stays open. -/
def endForeign (b : Builder) (name : String) : List OpenElement → Outcome
  | [] => .done b
  | [_] => .done b
  | e :: outer =>
    if e.tag.toLower == name then .done { b with opened := outer }
    else if outer.head?.any (·.vocabulary == .html) && 1 < outer.length then
      b.takeByMode (.closing name)
    else endForeign b name outer

/-- An end tag in a drawing or a formula. -/
def closeInForeign (b : Builder) (name : String) : Outcome :=
  if name == "br" || name == "p" then b.leaveForeign (.closing name)
  else b.endForeign name b.opened

/-- A token in a drawing or a formula. -/
def takeInForeign (b : Builder) : Token → Outcome
  | .comment content => .done (b.comment content)
  | .character c =>
    if c == '\x00' then .done (b.write '\uFFFD')
    else if isAsciiBlank c then .done (b.write c)
    else .done (b.write c).forbidFrames
  | .opening tag => b.openInForeign tag
  | .closing name => b.closeInForeign name
  | .doctype _ => .done b
  | .ending => .done b

end HtmlQuery.Markup.Builder
