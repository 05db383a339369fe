import HtmlQuery.Calendar.Reading
import HtmlQuery.Decimal.Locale
import HtmlQuery.Tree.Node
import HtmlQuery.Url.Reference

/-!
# What the text of a node writes

Numbers, dates and links read off a node.  Most are read off its own value, which only texts,
attributes and elements with a single text have.  Some are read off all of its text instead.
-/

namespace HtmlQuery.Node

/-- The integer that the value begins with. -/
def integer? (n : Node) : Option Int := do
  Decimal.leadingInteger? (← n.value?)

/-- The decimal that the value begins with. -/
def decimal? (n : Node) : Option Float := do
  Decimal.leadingDecimal? (← n.value?)

/-- The decimal that the value begins with, in the notation of a locale. -/
def decimalIn? (n : Node) (locale : Option String) : Option Float := do
  Decimal.leadingDecimalIn? locale (← n.value?)

/-- The decimal that the text begins with, in the notation of a locale. -/
def textDecimalIn? (n : Node) (locale : Option String) : Option Float :=
  Decimal.leadingDecimalIn? locale n.text

/-- The date that the value writes by a pattern, on a clock that is `zone` seconds ahead of UTC. -/
def date? (n : Node) (pattern : String) (zone : Int) : Option Calendar.ZonedMoment := do
  Calendar.readDate? (← n.value?) pattern zone

/-- The date that the text writes by a pattern, on a clock that is `zone` seconds ahead of UTC. -/
def textDate? (n : Node) (pattern : String) (zone : Int) : Option Calendar.ZonedMoment :=
  Calendar.readDate? n.text pattern zone

/-- The address that the `href` of the node leads to, from a page with the address `base`. -/
def linkFrom? (n : Node) (base : String) : Option String := do
  let href ← n.attribute? "href"
  let url ← Url.join? base (Text.trim href)
  return url.print

end HtmlQuery.Node
