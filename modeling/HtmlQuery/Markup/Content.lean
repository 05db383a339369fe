/-!
# Classes of elements

How an element is read and written depends on its tag.  A class is a list of tags.
-/

namespace HtmlQuery.Markup

/-! ## How elements are written -/

/-- The elements that have no end tag. -/
def voidTags : List String :=
  ["area", "base", "basefont", "bgsound", "br", "col", "embed", "frame", "hr", "img", "input",
    "keygen", "link", "meta", "param", "source", "track", "wbr"]

/-- The elements whose content is raw. -/
def rawTags : List String :=
  ["style", "script", "xmp", "iframe", "noembed", "noframes", "plaintext"]

/-! ## Parts of a page -/

/-- The elements that belong to the head of a page and have no content. -/
def headVoidTags : List String :=
  ["base", "basefont", "bgsound", "link", "meta"]

/-- The elements that belong to the head of a page. -/
def headTags : List String :=
  headVoidTags ++ ["noframes", "script", "style", "template", "title"]

/-- The headings. -/
def headingTags : List String :=
  ["h1", "h2", "h3", "h4", "h5", "h6"]

/-- The elements that end the paragraph before them and stand in the text like paragraphs. -/
def sectionTags : List String :=
  ["address", "article", "aside", "blockquote", "center", "details", "dialog", "dir", "div", "dl",
    "fieldset", "figcaption", "figure", "footer", "header", "hgroup", "main", "menu", "nav", "ol",
    "search", "section", "summary", "ul"]

/-- The elements that say how text looks.  One that is ended with what is around it begins again
with the next text. -/
def formattingTags : List String :=
  ["b", "big", "code", "em", "font", "i", "s", "small", "strike", "strong", "tt", "u"]

/-- The elements that hold another page or a program. -/
def objectTags : List String :=
  ["applet", "marquee", "object"]

/-! ## Parts of a table -/

/-- The parts of a table that have rows. -/
def rowGroupTags : List String :=
  ["tbody", "tfoot", "thead"]

/-- The cells of a table. -/
def cellTags : List String :=
  ["td", "th"]

/-- The parts of a table. -/
def tablePartTags : List String :=
  ["caption", "col", "colgroup", "tr"] ++ cellTags ++ rowGroupTags

/-! ## What ends an element -/

/-- The elements that end where what is around them ends. -/
def impliedEndTags : List String :=
  ["dd", "dt", "li", "optgroup", "option", "p", "rb", "rp", "rt", "rtc"]

/-- The elements that end where a template around them ends. -/
def templateEndTags : List String :=
  impliedEndTags ++ ["caption", "colgroup", "tr"] ++ cellTags ++ rowGroupTags

/-- The elements that keep what is inside from ending what is outside. -/
def scopeTags : List String :=
  ["applet", "caption", "html", "marquee", "object", "select", "table", "td", "template", "th"]

/-- The elements that keep a table from being ended. -/
def tableScopeTags : List String :=
  ["html", "table", "template"]

/-- The elements that other elements are placed by. -/
def specialTags : List String :=
  ["address", "applet", "area", "article", "aside", "base", "basefont", "bgsound", "blockquote",
    "body", "br", "button", "caption", "center", "col", "colgroup", "dd", "details", "dir", "div",
    "dl", "dt", "embed", "fieldset", "figcaption", "figure", "footer", "form", "frame", "frameset",
    "h1", "h2", "h3", "h4", "h5", "h6", "head", "header", "hgroup", "hr", "html", "iframe", "img",
    "input", "keygen", "li", "link", "listing", "main", "marquee", "menu", "meta", "nav", "noembed",
    "noframes", "noscript", "object", "ol", "p", "param", "plaintext", "pre", "script", "search",
    "section", "select", "source", "style", "summary", "table", "tbody", "td", "template",
    "textarea", "tfoot", "th", "thead", "title", "tr", "track", "ul", "wbr", "xmp"]

end HtmlQuery.Markup
