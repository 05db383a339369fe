import HtmlQuery.Url.Percent
import HtmlQuery.Url.Name

/-!
# Hosts

The host of a URL is a name, an address of four bytes, an address of eight pieces, or, where the
scheme does not say, a text that stands for itself.  Names are in ASCII.
-/

namespace HtmlQuery.Url

open Text (hexValue?)

/-- A host. -/
inductive Host where
  /-- A name of labels with points between them. -/
  | name (text : List Char)
  /-- An address of four bytes, as one number. -/
  | four (address : Nat)
  /-- An address of eight pieces of sixteen bits. -/
  | six (pieces : List Nat)
  /-- A text that stands for itself. -/
  | opaqueText (text : List Char)
  /-- No host, where there could be one. -/
  | empty
deriving DecidableEq, Repr

/-! ## Addresses of four bytes -/

/-- The parts of a text between points. -/
def parts (s : List Char) : List (List Char) :=
  Text.splitBy (· == '.') s

/-- A number of digits in some base. -/
def natOfBase? (base : Nat) (digits : List Char) : Option Nat :=
  digits.foldl (fun n c =>
    match n, hexValue? c with
    | some n, some d => if d < base then some (n * base + d) else none
    | _, _ => none) (some 0)

/-- A part of an address: decimal, octal behind a zero, or hexadecimal behind `0x`. -/
def partValue? (s : List Char) : Option Nat :=
  match s with
  | [] => none
  | '0' :: 'x' :: rest => natOfBase? 16 rest
  | '0' :: 'X' :: rest => natOfBase? 16 rest
  | '0' :: c :: rest => natOfBase? 8 (c :: rest)
  | s => natOfBase? 10 s

/-- The parts of an address, a point at the end left out. -/
def addressParts (s : List Char) : List (List Char) :=
  match (parts s).reverse with
  | [] :: last :: rest => (last :: rest).reverse
  | reversed => reversed.reverse

/-- Whether a name ends in a number and so has to be an address. -/
def endsInNumber (s : List Char) : Bool :=
  match (addressParts s).getLast? with
  | none => false
  | some last =>
    (!last.isEmpty && last.all fun c => '0' ≤ c && c ≤ '9') ||
      (match last with
        | '0' :: x :: rest => (x == 'x' || x == 'X') && (natOfBase? 16 rest).isSome
        | _ => false)

/-- The address that at most four numbers write.  The last one fills all bytes that are left. -/
def addressOf? (numbers : List Nat) : Option Nat :=
  match numbers.reverse with
  | [] => none
  | last :: firstReversed =>
    let first := firstReversed.reverse
    if 3 < first.length || first.any (255 < ·) || Nat.pow 256 (4 - first.length) ≤ last then none
    else
      let high := first.zipIdx.map fun (n, i) => n * Nat.pow 256 (3 - i)
      some (high.foldl (· + ·) last)

/-- The address of four bytes that a text writes. -/
def parseFour? (s : List Char) : Option Nat := do
  let numbers ← (addressParts s).mapM partValue?
  addressOf? numbers

/-- An address of four bytes as a text. -/
def printFour (n : Nat) : List Char :=
  ['.'].intercalate <| [3, 2, 1, 0].map fun i => Nat.toDigits 10 (n / Nat.pow 256 i % 256)

/-! ## Addresses of eight pieces -/

/-- A piece: one to four hexadecimal digits. -/
def pieceValue? (s : List Char) : Option Nat :=
  if s.isEmpty || 4 < s.length then none else natOfBase? 16 s

/-- A byte of an address of four bytes inside one of eight pieces: no zeros in front. -/
def byteValue? (s : List Char) : Option Nat :=
  match s with
  | [] => none
  | ['0'] => some 0
  | '0' :: _ => none
  | s => if 3 < s.length then none else (natOfBase? 10 s).filter (· ≤ 255)

/-- The two pieces that an address of four bytes writes. -/
def fourAsPieces? (s : List Char) : Option (List Nat) := do
  match ← (parts s).mapM byteValue? with
  | [a, b, c, d] => return [256 * a + b, 256 * c + d]
  | _ => none

/-- Pieces with colons between them.  The last may be an address of four bytes, where `tail` says
that it stands at the end of the whole address. -/
def piecesOf? (atEnd : Bool) (s : List Char) : Option (List Nat) :=
  if s.isEmpty then some []
  else
    let texts := Text.splitBy (· == ':') s
    let count := texts.length
    (texts.zipIdx.mapM fun (pair : List Char × Nat) =>
      if atEnd && pair.2 + 1 == count && pair.1.contains '.' then fourAsPieces? pair.1
      else (pieceValue? pair.1).map ([·])).map List.flatten

/-- Cuts a text at the first two colons in a row. -/
def splitDoubleColon : List Char → Option (List Char × List Char)
  | ':' :: ':' :: rest => some ([], rest)
  | c :: rest => (splitDoubleColon rest).map fun (before, after) => (c :: before, after)
  | [] => none

/-- The address of eight pieces that a text writes.  Two colons stand for pieces that are zero. -/
def parseSix? (s : List Char) : Option (List Nat) := do
  match splitDoubleColon s with
  | none =>
    let pieces ← piecesOf? true s
    if pieces.length = 8 then return pieces else none
  | some (before, after) =>
    let front ← piecesOf? false before
    let back ← piecesOf? true after
    let count := front.length + back.length
    if count ≤ 7 then return front ++ List.replicate (8 - count) 0 ++ back else none

/-- The number of zeros that a list of pieces begins with. -/
def zerosAtFront (pieces : List Nat) : Nat :=
  (pieces.takeWhile (· == 0)).length

/-- Where the longest run of at least two zeros begins, and how long it is. -/
def longestZeros (pieces : List Nat) : Option (Nat × Nat) :=
  (List.range pieces.length).foldl (fun best i =>
    let count := zerosAtFront (pieces.drop i)
    if 2 ≤ count && (best.map (·.2)).getD 1 < count then some (i, count) else best) none

/-- Pieces with colons between them. -/
def printPieces (pieces : List Nat) : List Char :=
  [':'].intercalate (pieces.map (Nat.toDigits 16))

/-- An address of eight pieces as a text, the longest run of zeros left out. -/
def printSix (pieces : List Nat) : List Char :=
  match longestZeros pieces with
  | none => printPieces pieces
  | some (start, count) =>
    printPieces (pieces.take start) ++ [':', ':'] ++ printPieces (pieces.drop (start + count))

/-! ## Names -/

/-- The characters that no host has. -/
def isForbiddenInHost (c : Char) : Bool :=
  ['\x00', '\t', '\n', '\r', ' ', '#', '/', ':', '<', '>', '?', '@', '[', '\\', ']', '^',
    '|'].contains c

/-- The characters that no host name has. -/
def isForbiddenInName (c : Char) : Bool :=
  isForbiddenInHost c || c.toNat < 0x20 || c == '%' || c == '\x7f'

/-- The host of a URL whose scheme says what hosts are. -/
def parseSpecialHost? (s : List Char) : Option Host := do
  let decoded ← String.fromUTF8? ⟨(percentDecode s).toArray⟩
  let name ← Name.toAscii? decoded.toList
  if name.isEmpty || name.any isForbiddenInName then none
  else if endsInNumber name then return .four (← parseFour? name)
  else return .name name

/-- The host that a text writes. -/
def parseHost? (special : Bool) (s : List Char) : Option Host :=
  match s with
  | '[' :: rest =>
    match rest.reverse with
    | ']' :: inside => (parseSix? inside.reverse).map .six
    | _ => none
  | s =>
    if special then parseSpecialHost? s
    else if s.isEmpty then some .empty
    else if s.any isForbiddenInHost then none
    else some (.opaqueText (percentEncode isControl s))

/-- A host as a text. -/
def Host.print : Host → List Char
  | .name text => text
  | .four address => printFour address
  | .six pieces => '[' :: printSix pieces ++ [']']
  | .opaqueText text => text
  | .empty => []

end HtmlQuery.Url
