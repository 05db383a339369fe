/-!
# Occurrences of a text in a text

`splitAtFirst needle text` cuts a text at the first place where another one occurs and gives what
stands before and after it.  A text occurs at its own front when it is empty.
-/

namespace HtmlQuery.Text

/-- What remains of a text after a prefix, if it has that prefix. -/
def stripPrefix? : (front text : List Char) → Option (List Char)
  | [], text => some text
  | _ :: _, [] => none
  | a :: front, b :: text => if a == b then stripPrefix? front text else none

/-- What stands before and after the first occurrence of `needle`. -/
def splitAtFirst (needle : List Char) : List Char → Option (List Char × List Char)
  | [] => (stripPrefix? needle []).map ([], ·)
  | c :: cs =>
    match stripPrefix? needle (c :: cs) with
    | some after => some ([], after)
    | none => (splitAtFirst needle cs).map fun (before, after) => (c :: before, after)

/-- Whether `needle` occurs anywhere. -/
def occursIn (needle : List Char) : List Char → Bool
  | [] => needle.isEmpty
  | c :: cs => needle.isPrefixOf (c :: cs) || occursIn needle cs

/-- Whether `text` contains `needle`. -/
def contains (text needle : String) : Bool :=
  occursIn needle.toList text.toList

/-- Whether `text` begins with `front`. -/
def beginsWith (text front : String) : Bool :=
  front.toList.isPrefixOf text.toList

/-- Whether `text` ends with `back`. -/
def endsWith (text back : String) : Bool :=
  back.toList.isSuffixOf text.toList

/-- What stands before the first occurrence of `needle`, or nothing if there is none. -/
def before (text needle : String) : String :=
  match splitAtFirst needle.toList text.toList with
  | some (front, _) => String.ofList front
  | none => ""

/-- What stands after the first occurrence of `needle`, or nothing if there is none. -/
def after (text needle : String) : String :=
  match splitAtFirst needle.toList text.toList with
  | some (_, back) => String.ofList back
  | none => ""

end HtmlQuery.Text
