import HtmlQuery.Markup.Token

/-!
# Drawings and formulas

The names in markup are in lower case, and some names of drawings and of one attribute of formulas
are not.  `foreignTag` and `foreignAttributes` give the names that these languages have.

Some elements of drawings and formulas hold content of pages: `holdsText` are those of formulas and
`holdsContent` those of drawings.
-/

namespace HtmlQuery.Markup

/-! ## Names -/

/-- The tags of drawings that are not in lower case. -/
def svgTags : List String :=
  ["altGlyph", "altGlyphDef", "altGlyphItem", "animateColor", "animateMotion", "animateTransform",
    "clipPath", "feBlend", "feColorMatrix", "feComponentTransfer", "feComposite",
    "feConvolveMatrix", "feDiffuseLighting", "feDisplacementMap", "feDistantLight", "feDropShadow",
    "feFlood", "feFuncA", "feFuncB", "feFuncG", "feFuncR", "feGaussianBlur", "feImage", "feMerge",
    "feMergeNode", "feMorphology", "feOffset", "fePointLight", "feSpecularLighting", "feSpotLight",
    "feTile", "feTurbulence", "foreignObject", "glyphRef", "linearGradient", "radialGradient",
    "textPath"]

/-- The attributes of drawings that are not in lower case. -/
def svgAttributes : List String :=
  ["attributeName", "attributeType", "baseFrequency", "baseProfile", "calcMode", "clipPathUnits",
    "diffuseConstant", "edgeMode", "filterUnits", "glyphRef", "gradientTransform", "gradientUnits",
    "kernelMatrix", "kernelUnitLength", "keyPoints", "keySplines", "keyTimes", "lengthAdjust",
    "limitingConeAngle", "markerHeight", "markerUnits", "markerWidth", "maskContentUnits",
    "maskUnits", "numOctaves", "pathLength", "patternContentUnits", "patternTransform",
    "patternUnits", "pointsAtX", "pointsAtY", "pointsAtZ", "preserveAlpha", "preserveAspectRatio",
    "primitiveUnits", "refX", "refY", "repeatCount", "repeatDur", "requiredExtensions",
    "requiredFeatures", "specularConstant", "specularExponent", "spreadMethod", "startOffset",
    "stdDeviation", "stitchTiles", "surfaceScale", "systemLanguage", "tableValues", "targetX",
    "targetY", "textLength", "viewBox", "viewTarget", "xChannelSelector", "yChannelSelector",
    "zoomAndPan"]

/-- The attributes of formulas that are not in lower case. -/
def mathAttributes : List String :=
  ["definitionURL"]

/-- A name in the case that it has in a list of names. -/
def restoreCase (names : List String) (name : String) : String :=
  (names.find? (·.toLower == name)).getD name

/-- The tag of an element in a language. -/
def foreignTag (vocabulary : Vocabulary) (tag : String) : String :=
  match vocabulary with
  | .svg => restoreCase svgTags tag
  | _ => tag

/-- The names of links, as they are qualified. -/
def linkNames : List String :=
  ["actuate", "arcrole", "href", "role", "show", "title", "type"]

/-- An attribute with its name parted from what qualifies it. -/
def qualify (a : Attribute) : Attribute :=
  if a.name == "xmlns" then { a with qualifier := .xmlns }
  else if a.name == "xmlns:xlink" then { a with name := "xlink", qualifier := .xmlns }
  else if a.name == "xml:lang" then { a with name := "lang", qualifier := .xml }
  else if a.name == "xml:space" then { a with name := "space", qualifier := .xml }
  else
    match linkNames.find? fun name => a.name == "xlink:" ++ name with
    | some name => { a with name := name, qualifier := .xlink }
    | none => a

/-- The attributes of an element in a language. -/
def foreignAttributes (vocabulary : Vocabulary) (attributes : List Attribute) : List Attribute :=
  let names :=
    match vocabulary with
    | .svg => svgAttributes
    | .math => mathAttributes
    | .html => []
  attributes.map fun a => qualify { a with name := restoreCase names a.name }

/-! ## Content of pages -/

/-- The elements of formulas that hold text of a page. -/
def holdsText (vocabulary : Vocabulary) (tag : String) : Bool :=
  vocabulary == .math && ["mi", "mo", "mn", "ms", "mtext"].contains tag

/-- The elements of drawings that hold content of a page. -/
def holdsContent (vocabulary : Vocabulary) (tag : String) : Bool :=
  vocabulary == .svg && ["foreignObject", "desc", "title"].contains tag

/-- Whether the attributes of an annotation in a formula say that it holds content of a page. -/
def annotatesContent (attributes : List Attribute) : Bool :=
  attributes.any fun a =>
    a.name == "encoding" && ["text/html", "application/xhtml+xml"].contains a.value.toLower

/-- The elements of pages that end the drawing or the formula that they stand in. -/
def endsForeign : List String :=
  ["b", "big", "blockquote", "body", "br", "center", "code", "dd", "div", "dl", "dt", "em", "embed",
    "h1", "h2", "h3", "h4", "h5", "h6", "head", "hr", "i", "img", "li", "listing", "menu", "meta",
    "nobr", "ol", "p", "pre", "ruby", "s", "small", "span", "strong", "strike", "sub", "sup",
    "table", "tt", "u", "ul", "var"]

/-- Whether a start tag ends the drawing or the formula that it stands in. -/
def leavesForeign (tag : Tag) : Bool :=
  endsForeign.contains tag.name ||
    tag.name == "font" && ["color", "face", "size"].any fun name => (tag.attribute? name).isSome

end HtmlQuery.Markup
