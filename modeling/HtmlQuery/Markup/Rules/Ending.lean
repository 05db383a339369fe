import HtmlQuery.Markup.Rules.Body

/-!
# After the body

What follows the end of the body belongs to it, but comments stand after it: beside the body, and
beside the `html` element when that has ended too.
-/

namespace HtmlQuery.Markup.Builder

open Text (isAsciiBlank)

/-- Adds a comment after the `body`. -/
def commentAfterBody (b : Builder) (content : String) : Builder :=
  match b.root? with
  | some root => b.commentAt (.under root.number) content
  | none => b

/-- A token after the `body`. -/
def takeAfterBody (b : Builder) : Token → Outcome
  | .comment content => .done (b.commentAfterBody content)
  | .character c => if isAsciiBlank c then .done (b.writeInBody c) else b.againIn .body
  | .opening tag => if tag.name == "html" then .done (b.addToRoot tag) else b.againIn .body
  | .closing name => if name == "html" then .done (b.toMode .afterBodyRoot) else b.againIn .body
  | .doctype _ => .done b
  | .ending => .done b

/-- A token after the `html` element with a `body`. -/
def takeAfterBodyRoot (b : Builder) : Token → Outcome
  | .comment content => .done (b.commentOutside content)
  | .character c => if isAsciiBlank c then .done (b.writeInBody c) else b.againIn .body
  | .opening tag => if tag.name == "html" then .done (b.addToRoot tag) else b.againIn .body
  | .closing _ => b.againIn .body
  | .doctype _ => .done b
  | .ending => .done b

end HtmlQuery.Markup.Builder
