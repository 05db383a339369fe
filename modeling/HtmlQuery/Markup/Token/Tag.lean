import HtmlQuery.Markup.Reference
import HtmlQuery.Markup.Token
import HtmlQuery.Text.Blank

/-!
# Reading tags

`readOpening` reads a start tag and `readClosing` an end tag, after the first letter of the name.  A
tag that the end of the text cuts off is dropped, with all that follows it.
-/

namespace HtmlQuery.Markup

open Text (Front isAsciiBlank)

/-! ## Names and values -/

/-- A character, or U+FFFD for the null character. -/
def shown (c : Char) : Char :=
  if c == '\x00' then '\uFFFD' else c

/-- A text with U+FFFD for every null character. -/
def showNulls (s : List Char) : List Char :=
  s.map shown

/-- A name in lower case. -/
def nameOf (s : List Char) : String :=
  String.ofList ((showNulls s).map Char.toLower)

/-- Whether a character goes on with the name of a tag. -/
def inTagName (c : Char) : Bool :=
  !(isAsciiBlank c || c == '/' || c == '>')

/-- Whether a character goes on with the name of an attribute. -/
def inAttributeName (c : Char) : Bool :=
  inTagName c && c != '='

/-- Whether a character goes on with a value that has no quotes. -/
def inBareValue (c : Char) : Bool :=
  !(isAsciiBlank c || c == '>')

/-- What the characters of a value stand for. -/
def valueOf (s : List Char) : String :=
  String.ofList (expandReferences true (showNulls s))

/-! ## Attributes -/

/-- What follows the quote at the end of a value.  `none` if the quote is missing. -/
def endQuoted (value : List Char) : (s : List Char) → Front (Option String) s
  | [] => .here none []
  | quote :: rest => (Front.here (some (valueOf value)) rest).behind quote

/-- A value that ends with this quote.  `none` if the quote is missing. -/
def readQuoted (quote : Char) (s : List Char) : Front (Option String) s :=
  let content := Front.takeWhile (· != quote) s
  content.andThen (endQuoted content.value content.rest)

/-- The value after an equals sign and blanks.  `none` if the end of the text cuts it off. -/
def readValue : (s : List Char) → Front (Option String) s
  | [] => .here none []
  | c :: rest =>
    if c == '"' || c == '\'' then (readQuoted c rest).behind c
    else if c == '>' then .here (some "") (c :: rest)
    else (Front.takeWhile inBareValue (c :: rest)).map fun value => some (valueOf value)

/-- The value that an equals sign begins.  The inner `none` is for a value that the end of the text
cuts off. -/
def readAssigned? : (s : List Char) → Option (Front (Option String) s)
  | '=' :: rest =>
    let blanks := Front.takeWhile isAsciiBlank rest
    some ((blanks.andThen (readValue blanks.rest)).behind '=')
  | _ => none

/-- The attribute that begins with a character.  `none` if the end of the text cuts it off. -/
def readAttribute (c : Char) (s : List Char) : Front (Option Attribute) s :=
  let tail := Front.takeWhile inAttributeName s
  let name := nameOf (c :: tail.value)
  let blanks := Front.takeWhile isAsciiBlank tail.rest
  match readAssigned? blanks.rest with
  | some value =>
    tail.andThen (blanks.andThen (value.map (·.map fun v => { name := name, value := v })))
  | none => tail.map fun _ => some { name := name, value := "" }

/-- The attributes up to the end of a tag, and whether a slash stands before it.  `none` if the end
of the text cuts the tag off. -/
def readAttributes (s : List Char) : Front (Option (List Attribute × Bool)) s :=
  let blanks := Front.takeWhile isAsciiBlank s
  blanks.andThen <|
    match h : blanks.rest with
    | [] => .here none []
    | '>' :: rest => (Front.here (some ([], false)) rest).behind '>'
    | '/' :: '>' :: rest => ((Front.here (some ([], true)) rest).behind '>').behind '/'
    | '/' :: rest =>
      have := blanks.length_lt h
      (readAttributes rest).behind '/'
    | c :: rest =>
      let first := readAttribute c rest
      have := Nat.lt_of_le_of_lt first.length_le (blanks.length_lt h)
      match first.value with
      | none => .whole none (c :: rest)
      | some a =>
        ((first.andThen (readAttributes first.rest)).behind c).map
          (·.map fun (others, closed) => (a :: others.filter (·.name != a.name), closed))
termination_by s.length

/-! ## Tags -/

/-- A start tag whose name begins with a character. -/
def readOpening (c : Char) (s : List Char) : Front (List Token) s :=
  let name := Front.takeWhile inTagName s
  let attributes := readAttributes name.rest
  match attributes.value with
  | none => .whole [] s
  | some (found, closed) =>
    name.andThen (attributes.map fun _ => [.opening ⟨nameOf (c :: name.value), found, closed⟩])

/-- An end tag whose name begins with a character. -/
def readClosing (c : Char) (s : List Char) : Front (List Token) s :=
  let name := Front.takeWhile inTagName s
  let attributes := readAttributes name.rest
  match attributes.value with
  | none => .whole [] s
  | some _ => name.andThen (attributes.map fun _ => [.closing (nameOf (c :: name.value))])

end HtmlQuery.Markup
