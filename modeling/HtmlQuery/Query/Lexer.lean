import HtmlQuery.Decimal.Numeral
import HtmlQuery.Query.Error
import HtmlQuery.Text.Alphabetic
import HtmlQuery.Text.Blank

/-!
# From characters to tokens

`scan` reads one token off the front of a text.  What it returns keeps the characters of the token
and those after it, which together are the text again.  So nothing is lost, every token takes at
least one character, and `lexFrom` ends.

What a name is hangs on both sides.  After a token that can end an operand, `and`, `or`, `div` and
`mod` are operators and `*` is a multiplication.  A name before an opening parenthesis is a node
type or a function, and one before two colons is an axis.
-/

namespace HtmlQuery

/-! ## Characters of names -/

/-- Whether a token that begins with this character is a name. -/
def beginsName (c : Char) : Bool :=
  Text.isAlphabetic c || c == '_'

/-- Whether a name goes on with this character. -/
def continuesName (c : Char) : Bool :=
  c.isAlphanum || c == '_' || c == '-' || c == '.' || 0x80 ≤ c.toNat

/-- Whether the part of a name after a colon can begin with this character. -/
def beginsLocalName (c : Char) : Bool :=
  c.isAlpha || c == '_' || 0x80 ≤ c.toNat

/-- Whether a text is accepted as a tag or attribute name: one part, without a prefix. -/
def isNameText (name : String) : Bool :=
  match name.toList with
  | [] => false
  | c :: cs => (beginsName c || 0x80 ≤ c.toNat) && cs.all continuesName

/-! ## One token -/

/-- The front of a text and what follows it. -/
structure Cut (input : List Char) where
  /-- The front. -/
  front : List Char
  /-- What follows. -/
  rest : List Char
  /-- The two make up the text. -/
  append_eq : front ++ rest = input

/-- The longest front of a text with all characters in a class. -/
def cutWhile (p : Char → Bool) (input : List Char) : Cut input :=
  ⟨input.takeWhile p, input.dropWhile p, List.takeWhile_append_dropWhile⟩

/-- A character before a front. -/
def Cut.after (c : Char) {input : List Char} (cut : Cut input) : Cut (c :: input) :=
  ⟨c :: cut.front, cut.rest, by simp [cut.append_eq]⟩

/-- A front, and a longer one that goes on into what follows it. -/
def Cut.extend {input : List Char} (cut : Cut input) (more : Cut cut.rest) : Cut input :=
  ⟨cut.front ++ more.front, more.rest, by simp [more.append_eq, cut.append_eq]⟩

/-- Nothing, and all that follows. -/
def Cut.none (input : List Char) : Cut input :=
  ⟨[], input, rfl⟩

/-- A token read off the front of a text. -/
structure Scan (input : List Char) extends Cut input where
  /-- The token. -/
  token : Token
  /-- It takes at least one character. -/
  front_ne_nil : front ≠ []

theorem Scan.length_rest_lt {input : List Char} (s : Scan input) :
    s.rest.length < input.length := by
  have h := congrArg List.length s.append_eq
  have := List.length_pos_iff.2 s.front_ne_nil
  simp at h
  omega

/-- A token of one character. -/
def Scan.one (c : Char) (cs : List Char) (token : Token) : Scan (c :: cs) :=
  ⟨⟨[c], cs, rfl⟩, token, by simp⟩

/-- A token of two characters. -/
def Scan.two (c d : Char) (cs : List Char) (token : Token) : Scan (c :: d :: cs) :=
  ⟨⟨[c, d], cs, rfl⟩, token, by simp⟩

/-- The symbols of one character that nothing else begins with. -/
def singleSymbol? : Char → Option Symbol
  | '(' => some .leftParen
  | ')' => some .rightParen
  | '[' => some .leftBracket
  | ']' => some .rightBracket
  | '@' => some .atSign
  | ',' => some .comma
  | '|' => some .pipe
  | '+' => some .plus
  | '-' => some .minus
  | '=' => some .equal
  | _ => none

/-- The rest of a name: characters of names, then a colon and another part if `tail` cuts one
off. -/
def cutName (tail : (input : List Char) → Cut input) (input : List Char) : Cut input :=
  let first := cutWhile continuesName input
  first.extend (tail first.rest)

/-- A colon and the part of a name after it. -/
def cutLocalName : (input : List Char) → Cut input
  | ':' :: d :: cs =>
    if beginsLocalName d then (cutWhile continuesName (d :: cs)).after ':' else .none _
  | input => .none input

/-- A colon and the part of a name after it, or a colon and `*`. -/
def cutLocalNameOrStar : (input : List Char) → Cut input
  | ':' :: '*' :: cs => ⟨[':', '*'], cs, rfl⟩
  | input => cutLocalName input

/-- The digits of a fraction, after a point. -/
def cutFraction : (input : List Char) → Cut input
  | '.' :: cs => (cutWhile Text.isAsciiDigit cs).after '.'
  | input => .none input

/-- The number that digits, and maybe a point and digits, write. -/
def numberOf (whole fraction : List Char) : Float :=
  Decimal.Numeral.toFloat { whole, fraction := fraction.drop 1, negative := false, exponent := 0 }

/-- The names of node types. -/
def nodeTypes : List String :=
  ["comment", "text", "processing-instruction", "node"]

/-- The operator that a name is after an operand. -/
def operatorName? : String → Option Symbol
  | "and" => some .and
  | "or" => some .or
  | "div" => some .div
  | "mod" => some .mod
  | _ => none

/-- The token that a name is, given what follows it. -/
def classifyName (afterOperand : Bool) (name : String) (rest : List Char) : Token :=
  match afterOperand, operatorName? name with
  | true, some operator => .symbol operator
  | _, _ =>
    match rest.dropWhile Text.isSpace with
    | '(' :: _ => if nodeTypes.contains name then .nodeType name else .function name
    | ':' :: ':' :: _ => .axis name
    | _ => .name name

/-- Why no token could be read, and how many bytes into the text that shows. -/
structure ScanError where
  /-- The cause. -/
  fault : Fault
  /-- The bytes before the place where it shows. -/
  offset : Nat

/-- A number.  The text begins with a digit, or with a point and a digit. -/
def scanNumber (c : Char) (cs : List Char) : Scan (c :: cs) :=
  if c == '.' then
    let fraction := (cutWhile Text.isAsciiDigit cs).after c
    ⟨fraction, .number (numberOf [] fraction.front), by simp [fraction, Cut.after]⟩
  else
    let whole := (cutWhile Text.isAsciiDigit cs).after c
    let fraction := cutFraction whole.rest
    ⟨whole.extend fraction, .number (numberOf whole.front fraction.front),
      by simp [whole, Cut.extend, Cut.after]⟩

/-- A literal that ends with the quote that it begins with. -/
def scanLiteral (quote : Char) (cs : List Char) : Except ScanError (Scan (quote :: cs)) :=
  let text := cutWhile (· != quote) cs
  match h : text.rest with
  | [] => .error ⟨.unterminatedLiteral, 0⟩
  | close :: rest =>
    .ok ⟨⟨quote :: text.front ++ [close], rest,
        by have := text.append_eq; simp_all⟩, .literal (String.ofList text.front), by simp⟩

/-- A dollar sign and a name. -/
def scanVariable (dollar : Char) (cs : List Char) : Except ScanError (Scan (dollar :: cs)) :=
  match cs with
  | [] => .error ⟨.missingVariableName, dollar.utf8Size⟩
  | c :: cs =>
    if beginsName c then
      let name := cutName cutLocalName (c :: cs)
      .ok ⟨name.after dollar, .variable (String.ofList name.front), by simp [Cut.after]⟩
    else .error ⟨.missingVariableName, dollar.utf8Size⟩

/-- A name, maybe with a prefix, or a prefix and `*`. -/
def scanName (afterOperand : Bool) (c : Char) (cs : List Char) : Scan (c :: cs) :=
  let name := (cutName cutLocalNameOrStar cs).after c
  ⟨name, classifyName afterOperand (String.ofList name.front) name.rest, by simp [name, Cut.after]⟩

/-- The token at the front of a text that does not begin with white space. -/
def scan (afterOperand : Bool) (c : Char) (cs : List Char) : Except ScanError (Scan (c :: cs)) :=
  match singleSymbol? c with
  | some s => .ok (.one c cs (.symbol s))
  | none =>
    if c == '"' || c == '\'' then scanLiteral c cs
    else if c == '$' then scanVariable c cs
    else if Text.isAsciiDigit c then .ok (scanNumber c cs)
    else if beginsName c then .ok (scanName afterOperand c cs)
    else
      match c, cs with
      | '*', cs => .ok (.one _ cs (if afterOperand then .symbol .multiply else .name "*"))
      | '/', '/' :: cs => .ok (.two _ _ cs (.symbol .doubleSlash))
      | '/', cs => .ok (.one _ cs (.symbol .slash))
      | '<', '=' :: cs => .ok (.two _ _ cs (.symbol .lessEqual))
      | '<', cs => .ok (.one _ cs (.symbol .less))
      | '>', '=' :: cs => .ok (.two _ _ cs (.symbol .greaterEqual))
      | '>', cs => .ok (.one _ cs (.symbol .greater))
      | '!', '=' :: cs => .ok (.two _ _ cs (.symbol .notEqual))
      | '!', _ => .error ⟨.loneExclamation, 0⟩
      | ':', ':' :: cs => .ok (.two _ _ cs (.symbol .colonColon))
      | ':', _ => .error ⟨.loneColon, 0⟩
      | '.', '.' :: cs => .ok (.two _ _ cs (.symbol .dotDot))
      | '.', d :: cs =>
        if Text.isAsciiDigit d then .ok (scanNumber '.' (d :: cs))
        else .ok (.one _ (d :: cs) (.symbol .dot))
      | '.', cs => .ok (.one _ cs (.symbol .dot))
      | c, _ => .error ⟨.unexpectedCharacter c, 0⟩

/-! ## All tokens -/

/-- The number of bytes of some characters. -/
def byteLength (cs : List Char) : Nat :=
  cs.foldl (fun n c => n + c.utf8Size) 0

/-- The tokens of a text whose first byte has the given position. -/
def lexFrom (position : Nat) (afterOperand : Bool) :
    (input : List Char) → Except QueryError (List Located)
  | [] => .ok []
  | c :: cs =>
    if Text.isSpace c then lexFrom (position + c.utf8Size) afterOperand cs
    else
      match scan afterOperand c cs with
      | .error e => .error ⟨e.fault, position + e.offset⟩
      | .ok s =>
        match lexFrom (position + byteLength s.front) s.token.endsOperand s.rest with
        | .error e => .error e
        | .ok tokens => .ok (⟨s.token, position⟩ :: tokens)
termination_by input => input.length
decreasing_by
  · exact Nat.lt_succ_self _
  · exact s.length_rest_lt

/-- The tokens of an expression. -/
def tokenize (expression : String) : Except QueryError (List Located) :=
  lexFrom 0 false expression.toList

end HtmlQuery
