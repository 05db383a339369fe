import HtmlQuery.Markup.Rules.Body

/-!
# In a set of frames

A set of frames takes the place of the body and holds nothing but frames and blanks.  Texts and all
other tags in it and after it are dropped.
-/

namespace HtmlQuery.Markup.Builder

open Text (isAsciiBlank)

/-- A start tag in a set of frames. -/
def openInFrames (b : Builder) (tag : Tag) : Builder :=
  if tag.name == "html" then b.addToRoot tag
  else if tag.name == "frameset" then b.enter tag
  else if tag.name == "frame" then b.addVoid tag
  else if tag.name == "noframes" then b.addHeadPart tag
  else b

/-- The end of a set of frames. -/
def endFrames (b : Builder) : Builder :=
  match b.opened with
  | [] => b
  | [_] => b
  | _ => if b.leave.isIn ["frameset"] then b.leave else b.leave.toMode .afterFrames

/-- A token in a set of frames. -/
def takeInFrames (b : Builder) : Token → Outcome
  | .comment content => .done (b.comment content)
  | .character c => .done (if isAsciiBlank c then b.write c else b)
  | .opening tag => .done (b.openInFrames tag)
  | .closing name => .done (if name == "frameset" then b.endFrames else b)
  | .doctype _ => .done b
  | .ending => .done b

/-- A start tag after the outermost set of frames. -/
def openAfterFrames (b : Builder) (tag : Tag) : Builder :=
  if tag.name == "html" then b.addToRoot tag
  else if tag.name == "noframes" then b.addHeadPart tag
  else b

/-- A token after the outermost set of frames. -/
def takeAfterFrames (b : Builder) : Token → Outcome
  | .comment content => .done (b.comment content)
  | .character c => .done (if isAsciiBlank c then b.write c else b)
  | .opening tag => .done (b.openAfterFrames tag)
  | .closing name => .done (if name == "html" then b.toMode .afterFramesRoot else b)
  | .doctype _ => .done b
  | .ending => .done b

/-- A token after the `html` element with a set of frames. -/
def takeAfterFramesRoot (b : Builder) : Token → Outcome
  | .comment content => .done (b.commentOutside content)
  | .character c => .done (if isAsciiBlank c then b.writeInBody c else b)
  | .opening tag => .done (b.openAfterFrames tag)
  | _ => .done b

end HtmlQuery.Markup.Builder
