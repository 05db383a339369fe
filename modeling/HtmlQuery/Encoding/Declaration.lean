import HtmlQuery.Encoding.Decoding
import HtmlQuery.Text.Pattern

/-!
# The encoding that a page declares

A byte-order mark says what the encoding is.  Without one, the first bytes of the page are read as
UTF-8 and searched for a `meta` tag with a `charset`, and if there is none for one that gives a
content type with a `charset`.  A page that declares nothing, or nothing known, is in UTF-8.
-/

namespace HtmlQuery.Encoding

open Text (Piece Pattern isBlank word)

/-- How many bytes of a page are searched for a declaration. -/
def searchedBytes : Nat := 1024

/-- Whether a character is not the end of a tag. -/
def insideTag (c : Char) : Bool :=
  c != '>'

/-- Whether a character is a quote. -/
def isQuote (c : Char) : Bool :=
  c == '"' || c == '\''

/-- At least one character inside a tag. -/
def someInsideTag : List Piece :=
  [.one insideTag, .many insideTag]

/-- An equals sign, with blanks around it. -/
def equalsSign : List Piece :=
  [.many isBlank, .one (· == '='), .many isBlank]

/-- A `meta` tag up to the value of its `charset`. -/
def charsetPattern : Pattern where
  pieces :=
    word "<meta" ++ someInsideTag ++ word "charset" ++ equalsSign ++ [.optional isQuote]
  captured c := !(isQuote c || isBlank c || c == '>' || c == ';')

/-- A `meta` tag that gives a content type, up to the `charset` in it. -/
def contentTypePattern : Pattern where
  pieces :=
    word "<meta" ++ someInsideTag ++ word "http-equiv" ++ equalsSign ++
      [.optional isQuote] ++ word "content-type" ++ [.optional isQuote] ++ someInsideTag ++
      word "content" ++ equalsSign ++
      [.optional isQuote, .many fun c => !(isQuote c || c == '>'), .one (· == ';'),
        .many isBlank] ++
      word "charset" ++ equalsSign
  captured c := !(isQuote c || isBlank c || c == '>')

/-- The label that the beginning of a page declares. -/
def declaredLabel? (start : List Char) : Option String :=
  ((charsetPattern.find? start).or (contentTypePattern.find? start)).map String.ofList

/-- The encoding of a page: that of its byte-order mark, or else the declared one, or else UTF-8. -/
def detect (bytes : List UInt8) : Encoding :=
  match byteOrderMark? bytes with
  | some (marked, _) => marked
  | none =>
    let start := lossyUtf8 (bytes.take searchedBytes)
    ((declaredLabel? start.toList).bind ofLabel?).getD .utf8

end HtmlQuery.Encoding
