import HtmlQuery.Calendar.Fields
import HtmlQuery.Decimal.Numeral

/-!
# Reading a date by a pattern

The parts of a pattern are read one after the other, and the text has to end with the last of them.
A number takes as many digits as it can have, or fewer, and blanks before it are skipped.  Only a
year may have a sign, and then it may have any number of digits.  Names are read without regard to
case.
-/

namespace HtmlQuery.Calendar

/-- The short names of the months and what makes them long. -/
def monthNames : List (String × String) :=
  [("jan", "uary"), ("feb", "ruary"), ("mar", "ch"), ("apr", "il"), ("may", ""), ("jun", "e"),
    ("jul", "y"), ("aug", "ust"), ("sep", "tember"), ("oct", "ober"), ("nov", "ember"),
    ("dec", "ember")]

/-- The short names of the days of the week and what makes them long. -/
def weekdayNames : List (String × String) :=
  [("mon", "day"), ("tue", "sday"), ("wed", "nesday"), ("thu", "rsday"), ("fri", "day"),
    ("sat", "urday"), ("sun", "day")]

/-- The most digits of a number. -/
def NumberField.width : NumberField → Option Nat
  | .year => some 4
  | .isoYear => some 4
  | .quarter => some 1
  | .weekdayFromSunday => some 1
  | .weekdayFromMonday => some 1
  | .ordinal => some 3
  | .nanosecond => some 9
  | .timestamp => none
  | _ => some 2

/-- Whether a number may have a sign. -/
def NumberField.signed : NumberField → Bool
  | .year => true
  | .isoYear => true
  | _ => false

/-- The number of the digits at the front of a text, at least one and at most so many, and the rest.
There is none beyond 64 bits. -/
def splitNumber? (most : Option Nat) (s : List Char) : Option (Int × List Char) :=
  let digits := s.takeWhile Text.isAsciiDigit
  let digits :=
    match most with
    | some most => digits.take most
    | none => digits
  let n : Int := Decimal.natOfDigits digits
  if digits.isEmpty || 0x8000000000000000 ≤ n then none else some (n, s.drop digits.length)

/-- A number of a field at the front of a text, and the rest. -/
def splitField? (field : NumberField) (s : List Char) : Option (Int × List Char) :=
  match field.signed, s with
  | true, '-' :: rest => (splitNumber? none rest).map fun (n, rest) => (-n, rest)
  | true, '+' :: rest => splitNumber? none rest
  | _, s => splitNumber? field.width s

/-- The text behind a word in any case. -/
def dropWord? (word : String) (s : List Char) : Option (List Char) :=
  let n := word.length
  if (s.take n).map Char.toLower == word.toList then some (s.drop n) else none

/-- The position of the name that a text begins with, and the rest. -/
def splitName? (names : List (String × String)) (long : Bool) (s : List Char) :
    Option (Nat × List Char) :=
  names.zipIdx.findSome? fun (name, i) =>
    (dropWord? name.1 s).map fun rest =>
      if long then (i, (dropWord? name.2 rest).getD rest) else (i, rest)

/-- The nanoseconds that the first `count` digits after the point of a second write as `n`. -/
def nanosecondsOf (n : Int) (count : Nat) : Int :=
  n * Nat.pow 10 (9 - count)

/-- The nanoseconds of a fraction of a second, of which nine digits count, and the rest. -/
def splitFraction? (s : List Char) : Option (Int × List Char) := do
  let (n, rest) ← splitNumber? (some 9) s
  let count := s.length - rest.length
  return (nanosecondsOf n count, rest.dropWhile Text.isAsciiDigit)

/-- The nanoseconds of a fraction of a second that has so many digits, and the rest. -/
def splitFractionOf? (count : Nat) (s : List Char) : Option (Int × List Char) := do
  let (n, rest) ← splitNumber? (some count) s
  if s.length - rest.length == count then return (nanosecondsOf n count, rest) else none

/-- Two digits at the front of a text, and the rest. -/
def splitTwoDigits? : List Char → Option (Nat × List Char)
  | a :: b :: rest =>
    if Text.isAsciiDigit a && Text.isAsciiDigit b then
      some (10 * Decimal.digitValue a + Decimal.digitValue b, rest)
    else none
  | _ => none

/-- Whether a text has at least two bytes. -/
def hasTwoBytes : List Char → Bool
  | [] => false
  | [c] => 0x80 ≤ c.toNat
  | _ => true

/-- The seconds that a sign, hours and minutes write, and the rest.  `z` and missing minutes are
allowed where asked. -/
def splitOffset? (allowZ allowHours : Bool) (s : List Char) : Option (Int × List Char) :=
  match s with
  | [] => none
  | c :: rest =>
    if allowZ && (c == 'z' || c == 'Z') then some (0, rest)
    else do
      let sign : Int ← if c == '+' then some 1
        else if c == '-' || c == '\u2212' then some (-1) else none
      let (hours, rest) ← splitTwoDigits? rest
      let rest := rest.dropWhile fun c => c == ':' || Text.isBlank c
      if hasTwoBytes rest then
        let (minutes, rest) ← splitTwoDigits? rest
        if minutes < 60 then return (sign * (hours * 3600 + minutes * 60 : Nat), rest) else none
      else if allowHours && rest.isEmpty then return (sign * (hours * 3600 : Nat), [])
      else none

/-- Reads one part of a pattern. -/
def readItem? (f : Fields) (item : PatternItem) (s : List Char) : Option (Fields × List Char) :=
  match item with
  | .literal text =>
    if text.isPrefixOf s then some (f, s.drop text.length) else none
  | .blank => some (f, s.dropWhile Text.isBlank)
  | .number field => do
    let (n, rest) ← splitField? field (s.dropWhile Text.isBlank)
    return (← f.put? field n, rest)
  | .monthName long => do
    let (i, rest) ← splitName? monthNames long s
    return (← f.put? .month (i + 1 : Nat), rest)
  | .weekdayName long => do
    let (i, rest) ← splitName? weekdayNames long s
    return (← f.putWeekday? i, rest)
  | .half =>
    match dropWord? "am" s, dropWord? "pm" s with
    | some rest, _ => (f.putHalf? 0).map (·, rest)
    | none, some rest => (f.putHalf? 1).map (·, rest)
    | none, none => none
  | .fraction count =>
    match s with
    | '.' :: rest => do
      let (n, rest) ←
        match count with
        | some count => splitFractionOf? count rest
        | none => splitFraction? rest
      return (← f.put? .nanosecond n, rest)
    | s => some (f, s)
  | .fractionDigits count => do
    let (n, rest) ← splitFractionOf? count s
    return (← f.put? .nanosecond n, rest)
  | .offset style => do
    let lenient := style == .lenient
    let (n, rest) ← splitOffset? lenient lenient (s.dropWhile Text.isBlank)
    return (← f.putOffset? n, rest)
  | .zoneName => some (f, s.dropWhile (! Text.isBlank ·))
  | .dateTimeSeparator =>
    match s with
    | c :: rest => if c == 't' || c == 'T' || c == ' ' then some (f, rest) else none
    | [] => none
  | .offsetOrUtc => do
    let (n, rest) ←
      match dropWord? "utc" s with
      | some rest => some (0, rest)
      | none => splitOffset? true false s
    return (← f.putOffset? n, rest)

/-- Reads the parts of a pattern one after the other, up to the end of the text. -/
def readItems? (f : Fields) : List PatternItem → List Char → Option Fields
  | [], [] => some f
  | [], _ :: _ => none
  | item :: items, s => do
    let (f, rest) ← readItem? f item s
    readItems? f items rest

/-- The moment that a text writes by a pattern, blanks around it left out.  A date on no clock of
its own is read on one that is `zone` seconds ahead of UTC. -/
def readDate? (text pattern : String) (zone : Int) : Option ZonedMoment := do
  let items ← patternItems? pattern.toList
  let f ← readItems? {} items (Text.trimBy Text.isBlank text.toList)
  f.resolve? zone

end HtmlQuery.Calendar
