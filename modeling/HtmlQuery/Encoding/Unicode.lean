/-!
# Reading UTF-8 and UTF-16

A reader gives one entry for every character and one `none` for every piece of the input that is not
a character.  In UTF-8 such a piece is the longest front of a character that the bytes make up, or
else one byte.  In UTF-16 it is a surrogate without its partner, or bytes at the end that do not
make up a unit.
-/

namespace HtmlQuery.Encoding

/-- The text of what a reader gives, with U+FFFD for every piece that stands for nothing. -/
def filled (entries : List (Option Char)) : List Char :=
  entries.map (·.getD '\uFFFD')

/-! ## UTF-8 -/

/-- A character of which some bytes have been read. -/
structure Pending where
  /-- The number that the bytes so far make up. -/
  value : Nat
  /-- How many more bytes there must be after the next one. -/
  after : Nat
  /-- The least value of the next byte. -/
  low : Nat := 0x80
  /-- The greatest value of the next byte. -/
  high : Nat := 0xBF

/-- What a byte is at the front of a character. -/
inductive Lead where
  /-- All of the character. -/
  | whole (c : Char)
  /-- The first byte of several. -/
  | part (pending : Pending)
  /-- No byte that a character begins with. -/
  | malformed

/-- What a byte is at the front of a character. -/
def lead (b : UInt8) : Lead :=
  let n := b.toNat
  if n < 0x80 then .whole (Char.ofNat n)
  else if n < 0xC2 then .malformed
  else if n < 0xE0 then .part ⟨n - 0xC0, 0, 0x80, 0xBF⟩
  else if n == 0xE0 then .part ⟨0, 1, 0xA0, 0xBF⟩
  else if n == 0xED then .part ⟨0xD, 1, 0x80, 0x9F⟩
  else if n < 0xF0 then .part ⟨n - 0xE0, 1, 0x80, 0xBF⟩
  else if n == 0xF0 then .part ⟨0, 2, 0x90, 0xBF⟩
  else if n < 0xF4 then .part ⟨n - 0xF0, 2, 0x80, 0xBF⟩
  else if n == 0xF4 then .part ⟨4, 2, 0x80, 0x8F⟩
  else .malformed

/-- Whether a byte may come next. -/
def Pending.admits (p : Pending) (b : UInt8) : Bool :=
  p.low ≤ b.toNat && b.toNat ≤ p.high

/-- The number after one more byte. -/
def Pending.extend (p : Pending) (b : UInt8) : Nat :=
  p.value * 64 + (b.toNat - 0x80)

/-- The characters of bytes in UTF-8, after the first bytes of a character, if any. -/
def readUtf8From : Option Pending → List UInt8 → List (Option Char)
  | none, [] => []
  | some _, [] => [none]
  | none, b :: bs =>
    match lead b with
    | .whole c => some c :: readUtf8From none bs
    | .part p => readUtf8From (some p) bs
    | .malformed => none :: readUtf8From none bs
  | some p, b :: bs =>
    if p.admits b then
      match p.after with
      | 0 => some (Char.ofNat (p.extend b)) :: readUtf8From none bs
      | n + 1 => readUtf8From (some ⟨p.extend b, n, 0x80, 0xBF⟩) bs
    else
      match lead b with
      | .whole c => none :: some c :: readUtf8From none bs
      | .part p => none :: readUtf8From (some p) bs
      | .malformed => none :: none :: readUtf8From none bs

/-- The characters of bytes in UTF-8. -/
def readUtf8 (bytes : List UInt8) : List (Option Char) :=
  readUtf8From none bytes

/-- The text of bytes in UTF-8, whatever they are. -/
def lossyUtf8 (bytes : List UInt8) : String :=
  String.ofList (filled (readUtf8 bytes))

/-! ## UTF-16 -/

/-- Whether a unit is the first half of a character. -/
def isHighSurrogate (u : Nat) : Bool :=
  0xD800 ≤ u && u < 0xDC00

/-- Whether a unit is the second half of a character. -/
def isLowSurrogate (u : Nat) : Bool :=
  0xDC00 ≤ u && u < 0xE000

/-- The character with these two halves. -/
def joinSurrogates (high low : Nat) : Char :=
  Char.ofNat (0x10000 + (high - 0xD800) * 0x400 + (low - 0xDC00))

/-- The characters of bytes in UTF-16, after the first half of a character, if any.  The first
argument makes a unit of two bytes. -/
def readUtf16From (unit : UInt8 → UInt8 → Nat) : Option Nat → List UInt8 → List (Option Char)
  | none, [] => []
  | none, [_] => [none]
  | some _, [] => [none]
  | some _, [_] => [none]
  | none, a :: b :: rest =>
    let u := unit a b
    if isHighSurrogate u then readUtf16From unit (some u) rest
    else if isLowSurrogate u then none :: readUtf16From unit none rest
    else some (Char.ofNat u) :: readUtf16From unit none rest
  | some high, a :: b :: rest =>
    let u := unit a b
    if isLowSurrogate u then some (joinSurrogates high u) :: readUtf16From unit none rest
    else if isHighSurrogate u then none :: readUtf16From unit (some u) rest
    else none :: some (Char.ofNat u) :: readUtf16From unit none rest

/-- The characters of bytes in UTF-16, the high byte of a unit first. -/
def readUtf16be (bytes : List UInt8) : List (Option Char) :=
  readUtf16From (fun a b => a.toNat * 256 + b.toNat) none bytes

/-- The characters of bytes in UTF-16, the low byte of a unit first. -/
def readUtf16le (bytes : List UInt8) : List (Option Char) :=
  readUtf16From (fun a b => b.toNat * 256 + a.toNat) none bytes

end HtmlQuery.Encoding
