import HtmlQuery.Encoding.Label
import HtmlQuery.Encoding.Table
import HtmlQuery.Encoding.Unicode

/-!
# From bytes to text

`read` gives a character or `none` for every piece of the input.  Text is made of it in two ways.
The strict way fails if there is a `none`, and the lenient way writes U+FFFD for it.

A byte-order mark at the front is never part of the text if it is the mark of the encoding.  The
lenient way lets any mark say what the encoding is.
-/

namespace HtmlQuery.Encoding

/-- The characters of a page written with letters of its own: the bytes from 80 on stand for
characters of private use. -/
def readUserDefined (bytes : List UInt8) : List (Option Char) :=
  bytes.map fun b => some (Char.ofNat (if b < 0x80 then b.toNat else 0xF700 + b.toNat))

/-- How the encodings of East Asia are read, which write a character as one byte or more and have
thousands of them.  Their tables are not part of this library, so whoever reads documents says what
they are.  What is proved here holds of any such reader, or of those that keep to the standard as
far as a theorem says. -/
class MultiByteReader where
  /-- The characters of bytes in GBK, gb18030, Big5, EUC-JP, ISO-2022-JP, Shift_JIS or EUC-KR, with
  `none` for every piece that stands for nothing. -/
  read : Encoding → List UInt8 → List (Option Char)

variable [MultiByteReader]

/-- The characters of bytes, with `none` for every piece that stands for nothing.  Nothing can be
read in the replacement encoding.  An encoding that is neither a form of Unicode nor has a table of
128 letters is read as the `MultiByteReader` says. -/
def read (e : Encoding) (bytes : List UInt8) : List (Option Char) :=
  match e with
  | .utf8 => readUtf8 bytes
  | .utf16be => readUtf16be bytes
  | .utf16le => readUtf16le bytes
  | .userDefined => readUserDefined bytes
  | .replacement => if bytes.isEmpty then [] else [none]
  | e =>
    match e.upperHalf? with
    | some upper => readTable upper bytes
    | none => MultiByteReader.read e bytes

/-- The text of bytes that all stand for characters. -/
def readAll? (e : Encoding) (bytes : List UInt8) : Option String :=
  ((e.read bytes).mapM id).map String.ofList

/-- The text of bytes, with U+FFFD for every piece that stands for nothing. -/
def readLenient (e : Encoding) (bytes : List UInt8) : String :=
  String.ofList (filled (e.read bytes))

/-- The encoding that a byte-order mark at the front names, and what follows the mark. -/
def byteOrderMark? : List UInt8 → Option (Encoding × List UInt8)
  | 0xEF :: 0xBB :: 0xBF :: rest => some (.utf8, rest)
  | 0xFE :: 0xFF :: rest => some (.utf16be, rest)
  | 0xFF :: 0xFE :: rest => some (.utf16le, rest)
  | _ => none

/-- What follows the byte-order mark of the encoding, if there is one. -/
def dropOwnMark (e : Encoding) (bytes : List UInt8) : List UInt8 :=
  match byteOrderMark? bytes with
  | some (marked, rest) => if marked = e then rest else bytes
  | none => bytes

/-- The text of bytes, which must all stand for characters. -/
def decodeStrict (e : Encoding) (bytes : List UInt8) : Except EncodingError String :=
  match e.readAll? (e.dropOwnMark bytes) with
  | some text => .ok text
  | none => .error (.malformed e)

/-- The text of bytes, in the encoding of a byte-order mark if there is one. -/
def decodeLenient (e : Encoding) (bytes : List UInt8) : String :=
  match byteOrderMark? bytes with
  | some (marked, rest) => marked.readLenient rest
  | none => e.readLenient bytes

/-- The text of bytes, read in the strict or in the lenient way. -/
def decode (e : Encoding) (strict : Bool) (bytes : List UInt8) : Except EncodingError String :=
  if strict then e.decodeStrict bytes else .ok (e.decodeLenient bytes)

end HtmlQuery.Encoding
