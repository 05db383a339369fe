import HtmlQuery.Encoding.Basic
import HtmlQuery.Text.Blank

/-!
# Looking an encoding up by its label

A label is matched without the blanks around it and without regard to the case of ASCII letters.
-/

namespace HtmlQuery

/-- Why bytes cannot be read as text. -/
inductive EncodingError where
  /-- No encoding has this label. -/
  | unknownLabel (label : String)
  /-- Some bytes stand for nothing in this encoding. -/
  | malformed (encoding : Encoding)
deriving DecidableEq, Repr

/-- The wording of an error. -/
def EncodingError.message : EncodingError → String
  | .unknownLabel label => "unknown encoding label '" ++ label ++ "'"
  | .malformed encoding => "malformed " ++ encoding.name ++ " byte sequence"

namespace Encoding

/-- The encoding with a label, as a page declares it: blanks of ASCII around it do not count. -/
def ofLabel? (label : String) : Option Encoding :=
  let wanted := String.ofList ((Text.trimBy Text.isAsciiBlank label.toList).map Char.toLower)
  all.find? (·.labels.contains wanted)

/-- The encoding with a label, as a caller asks for it: no blanks around it count. -/
def lookUp (label : String) : Except EncodingError Encoding :=
  match ofLabel? (Text.trim label) with
  | some encoding => .ok encoding
  | none => .error (.unknownLabel label)

end Encoding

end HtmlQuery
