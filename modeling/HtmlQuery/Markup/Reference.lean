import HtmlQuery.Encoding.Table
import HtmlQuery.Markup.Reference.Name
import HtmlQuery.Text.Front

/-!
# Character references

A reference is an ampersand, then a number or a name, then a semicolon.  The semicolon may be left
out after a number and after some names.  Of the names that a text begins with the longest counts.
In the value of an attribute a name without a semicolon that goes on like a longer word is no
reference.  An ampersand that begins no reference stands for itself.
-/

namespace HtmlQuery.Markup

open Text (Front)

/-! ## Numbers -/

/-- The character with a code.  The codes from 80 to 9F, in hexadecimal digits, mean what these
bytes mean in the encoding of western pages, and a code that no character has means U+FFFD. -/
def characterOfCode (code : Nat) : Char :=
  if code = 0 then '\uFFFD'
  else if 0x80 ≤ code && code ≤ 0x9F then
    (((Encoding.upperHalf? .windows1252).getD "").toList[code - 0x80]?).getD '\uFFFD'
  else if h : code.isValidChar then Char.ofNatAux code h
  else '\uFFFD'

/-- The number that some digits write in a base. -/
def codeOfDigits (base : Nat) (digits : List Char) : Nat :=
  digits.foldl (fun n c => base * n + (Text.hexValue? c).getD 0) 0

/-- Whether a character is a digit of sixteen. -/
def isHexDigit (c : Char) : Bool :=
  (Text.hexValue? c).isSome

/-- What follows a semicolon, if there is one. -/
def skipSemicolon : (s : List Char) → Front Unit s
  | ';' :: rest => (Front.here () rest).behind ';'
  | s => .here () s

/-- The character that digits and maybe a semicolon refer to. -/
def numericReference? (base : Nat) (isDigit : Char → Bool) (s : List Char) :
    Option (Front (List Char) s) :=
  let digits := Front.takeWhile isDigit s
  if digits.value.isEmpty then none
  else
    let c := characterOfCode (codeOfDigits base digits.value)
    some (digits.andThen ((skipSemicolon digits.rest).map fun _ => [c]))

/-! ## Names -/

/-- Whether a word without a semicolon could go on with what follows. -/
def goesOn : List Char → Bool
  | [] => false
  | c :: _ => c == '=' || c.isAlphanum

/-- The longer of two names. -/
def longerName (best : Option CharacterName) (name : CharacterName) : Option CharacterName :=
  if best.any fun b => name.name.length < b.name.length then best else some name

/-- The longest name that a text begins with. -/
def longestName? (s : List Char) : Option CharacterName :=
  (characterNames.filter (·.name.isPrefixOf s)).foldl longerName none

/-- What a name stands for that is good without a semicolon. -/
def withoutSemicolon? (inValue : Bool) (characters s : List Char) : Option (Front (List Char) s) :=
  if inValue && goesOn s then none
  else some ((skipSemicolon s).map fun _ => characters)

/-- The characters that a name refers to. -/
def namedReference? (inValue : Bool) (s : List Char) : Option (Front (List Char) s) := do
  let found ← longestName? s
  let tail ← Front.drop? found.name s
  if found.name.getLast? == some ';' then return tail.map fun _ => found.characters
  else return tail.andThen (← withoutSemicolon? inValue found.characters tail.rest)

/-! ## References -/

/-- The characters that the text after an ampersand refers to. -/
def reference? (inValue : Bool) : (s : List Char) → Option (Front (List Char) s)
  | '#' :: 'x' :: s =>
    (numericReference? 16 isHexDigit s).map fun found => (found.behind 'x').behind '#'
  | '#' :: 'X' :: s =>
    (numericReference? 16 isHexDigit s).map fun found => (found.behind 'X').behind '#'
  | '#' :: s => (numericReference? 10 Text.isAsciiDigit s).map (·.behind '#')
  | s => namedReference? inValue s

/-- A text with every reference replaced by its characters. -/
def expandReferences (inValue : Bool) : List Char → List Char
  | [] => []
  | c :: cs =>
    if c == '&' then
      match reference? inValue cs with
      | some found =>
        have := found.length_le
        found.value ++ expandReferences inValue found.rest
      | none => c :: expandReferences inValue cs
    else c :: expandReferences inValue cs
termination_by s => s.length

end HtmlQuery.Markup
