import HtmlQuery.Markup.Rules.Ending
import HtmlQuery.Markup.Rules.Frame
import HtmlQuery.Markup.Rules.Table
import HtmlQuery.Markup.Rules.Template

/-!
# The rules of every mode

The mode says which rules a token is taken by.  A mode passes a token on only to a later part of the
page or after it has closed an element.
-/

namespace HtmlQuery.Markup.Builder

/-- Takes a token by the rules of the mode. -/
def takeByMode (b : Builder) (t : Token) : Outcome :=
  match b.mode with
  | .start => b.takeAtStart t
  | .beforeRoot => b.takeBeforeRoot t
  | .beforeHead => b.takeBeforeHead t
  | .head => b.takeInHead t
  | .noscript => b.takeInNoscript t
  | .afterHead => b.takeAfterHead t
  | .body => b.takeInBody t
  | .text => b.takeInText t
  | .table => b.takeInTable t
  | .tableText => b.takeInTableText t
  | .caption => b.takeInCaption t
  | .columns => b.takeInColumns t
  | .rows => b.takeInRows t
  | .row => b.takeInRow t
  | .cell => b.takeInCell t
  | .template => b.takeInTemplate t
  | .afterBody => b.takeAfterBody t
  | .frames => b.takeInFrames t
  | .afterFrames => b.takeAfterFrames t
  | .afterBodyRoot => b.takeAfterBodyRoot t
  | .afterFramesRoot => b.takeAfterFramesRoot t

end HtmlQuery.Markup.Builder
