import HtmlQuery.Calendar.Date
import HtmlQuery.Calendar.Pattern

/-!
# What a text says of a date

The parts of a date read from a text are kept in a `Fields`.  A part may be given twice if both
times it is the same.  `Fields.date` finds the day that the parts fix and checks every part against
it, `Fields.time` does so for the time, and `Fields.moment` for both.  Seconds since 1970 fix a day
and a time too.

A question that the parts leave open is `missing`, one that they contradict is `wrong`.
-/

namespace HtmlQuery.Calendar

/-- Why parts fix no date. -/
inductive Gap where
  /-- They leave it open. -/
  | missing
  /-- They contradict each other, or there is no such date. -/
  | wrong
deriving DecidableEq, Repr

/-- The parts of a date. -/
structure Fields where
  /-- The year. -/
  year : Option Int := none
  /-- The year without its last two digits. -/
  century : Option Int := none
  /-- The last two digits of the year. -/
  yearOfCentury : Option Int := none
  /-- The ISO year. -/
  isoYear : Option Int := none
  /-- The last two digits of the ISO year. -/
  isoYearOfCentury : Option Int := none
  /-- The quarter of the year. -/
  quarter : Option Int := none
  /-- The month. -/
  month : Option Int := none
  /-- The day of the month. -/
  day : Option Int := none
  /-- The week counted from the first Sunday. -/
  weekFromSunday : Option Int := none
  /-- The week counted from the first Monday. -/
  weekFromMonday : Option Int := none
  /-- The ISO week. -/
  isoWeek : Option Int := none
  /-- The day of the week, Monday being 0. -/
  weekday : Option Int := none
  /-- The day of the year. -/
  ordinal : Option Int := none
  /-- The half of the day. -/
  half : Option Int := none
  /-- The hour of the half of the day, from 0. -/
  hourOfHalf : Option Int := none
  /-- The minute. -/
  minute : Option Int := none
  /-- The second. -/
  second : Option Int := none
  /-- The nanosecond. -/
  nanosecond : Option Int := none
  /-- The seconds since 1970. -/
  timestamp : Option Int := none
  /-- The seconds that the clock is ahead of UTC. -/
  offset : Option Int := none
deriving DecidableEq, Repr

/-- A part given once more. -/
def merge? (old : Option Int) (new : Int) : Option (Option Int) :=
  match old with
  | none => some (some new)
  | some v => if v == new then some (some v) else none

/-- A number between two bounds. -/
def within? (low high n : Int) : Option Int :=
  if low ≤ n && n ≤ high then some n else none

namespace Fields

/-- Adds the half of the day. -/
def putHalf? (f : Fields) (n : Int) : Option Fields := do
  return { f with half := ← merge? f.half n }

/-- Adds a day of the week, Monday being 0. -/
def putWeekday? (f : Fields) (n : Int) : Option Fields := do
  return { f with weekday := ← merge? f.weekday n }

/-- Adds an hour of the whole day. -/
def putHour? (f : Fields) (n : Int) : Option Fields := do
  let f ← f.putHalf? (n / 12)
  return { f with hourOfHalf := ← merge? f.hourOfHalf (n % 12) }

/-- Adds the seconds that the clock is ahead. -/
def putOffset? (f : Fields) (n : Int) : Option Fields := do
  return { f with offset := ← merge? f.offset n }

/-- Adds a number. -/
def put? (f : Fields) (field : NumberField) (n : Int) : Option Fields := do
  match field with
  | .year =>
    let n ← within? (-0x80000000) 0x7FFFFFFF n
    return { f with year := ← merge? f.year n }
  | .century =>
    let n ← within? 0 0x7FFFFFFF n
    return { f with century := ← merge? f.century n }
  | .yearOfCentury => return { f with yearOfCentury := ← merge? f.yearOfCentury n }
  | .isoYear =>
    let n ← within? (-0x80000000) 0x7FFFFFFF n
    return { f with isoYear := ← merge? f.isoYear n }
  | .isoYearOfCentury => return { f with isoYearOfCentury := ← merge? f.isoYearOfCentury n }
  | .quarter =>
    let n ← within? 1 4 n
    return { f with quarter := ← merge? f.quarter n }
  | .month =>
    let n ← within? 1 12 n
    return { f with month := ← merge? f.month n }
  | .day =>
    let n ← within? 1 31 n
    return { f with day := ← merge? f.day n }
  | .weekFromSunday =>
    let n ← within? 0 53 n
    return { f with weekFromSunday := ← merge? f.weekFromSunday n }
  | .weekFromMonday =>
    let n ← within? 0 53 n
    return { f with weekFromMonday := ← merge? f.weekFromMonday n }
  | .isoWeek =>
    let n ← within? 1 53 n
    return { f with isoWeek := ← merge? f.isoWeek n }
  | .weekdayFromSunday =>
    let n ← within? 0 6 n
    f.putWeekday? ((n + 6) % 7)
  | .weekdayFromMonday =>
    let n ← within? 1 7 n
    f.putWeekday? (n - 1)
  | .ordinal =>
    let n ← within? 1 366 n
    return { f with ordinal := ← merge? f.ordinal n }
  | .hour =>
    let n ← within? 0 23 n
    f.putHour? n
  | .hourOfHalf =>
    let n ← within? 1 12 n
    return { f with hourOfHalf := ← merge? f.hourOfHalf (n % 12) }
  | .minute =>
    let n ← within? 0 59 n
    return { f with minute := ← merge? f.minute n }
  | .second =>
    let n ← within? 0 60 n
    return { f with second := ← merge? f.second n }
  | .nanosecond => return { f with nanosecond := ← merge? f.nanosecond n }
  | .timestamp => return { f with timestamp := ← merge? f.timestamp n }

/-! ## Days -/

/-- The year that a whole year, a century and the last two digits fix.  Two digits alone are a year
from 1970 to 2069. -/
def resolveYear (year century last : Option Int) : Except Gap (Option Int) :=
  match year, century, last with
  | y, none, none => .ok y
  | some y, c, l =>
    if 0 ≤ y && c.getD (y / 100) == y / 100 && l.getD (y % 100) == y % 100 then .ok (some y)
    else .error .wrong
  | none, some c, some l => .ok (some (c * 100 + l))
  | none, none, some l => .ok (some (l + if l < 70 then 2000 else 1900))
  | none, some _, none => .error .missing

/-- Whether a part that may not be given is a given one. -/
def agrees (part : Option Int) (value : Int) : Bool :=
  part.getD value == value

/-- Whether the century and the last two digits are those of a year.  A year before year zero has
neither. -/
def agreesWithYear (century last : Option Int) (year : Int) : Bool :=
  if 0 ≤ year then agrees century (year / 100) && agrees last (year % 100)
  else century.isNone && last.isNone

/-- Whether the year, the month and the day are those of a date. -/
def agreesWithDay (f : Fields) (d : Date) : Bool :=
  agrees f.year d.year && agreesWithYear f.century f.yearOfCentury d.year &&
    agrees f.month d.month && agrees f.day d.day

/-- Whether the ISO year and week and the day of the week are those of a date. -/
def agreesWithIsoWeek (f : Fields) (d : Date) : Bool :=
  let (year, week) := d.isoWeek
  agrees f.isoYear year && agreesWithYear none f.isoYearOfCentury year && agrees f.isoWeek week &&
    agrees f.weekday d.weekday

/-- Whether the day of the year, the weeks of the year and the quarter are those of a date. -/
def agreesWithOrdinal (f : Fields) (d : Date) : Bool :=
  agrees f.ordinal d.ordinal && agrees f.weekFromSunday (d.weekFrom 6) &&
    agrees f.weekFromMonday (d.weekFrom 0) && agrees f.quarter ((d.month - 1 : Nat) / 3 + 1 : Nat)

/-- The day that the parts fix first, before the others are checked. -/
def candidate (f : Fields) (year isoYear : Option Int) : Except Gap Date :=
  let found (d : Option Date) : Except Gap Date :=
    match d with
    | some d => .ok d
    | none => .error .wrong
  match year, f.month, f.day, f.ordinal with
  | some y, some m, some d, _ => found (Date.ofParts? y m.toNat d.toNat)
  | some y, _, _, some n => found (Date.ofOrdinal? y n.toNat)
  | _, _, _, _ =>
    match year, f.weekFromSunday, f.weekFromMonday, f.weekday with
    | some y, some w, _, some d => found (Date.ofWeek? y w.toNat d.toNat 6)
    | some y, none, some w, some d => found (Date.ofWeek? y w.toNat d.toNat 0)
    | _, _, _, _ =>
      match isoYear, f.isoWeek, f.weekday with
      | some y, some w, some d => found (Date.ofIsoWeek? y w.toNat d.toNat)
      | _, _, _ => .error .missing

/-- The day that the parts fix. -/
def date (f : Fields) : Except Gap Date := do
  let year ← resolveYear f.year f.century f.yearOfCentury
  let isoYear ← resolveYear f.isoYear none f.isoYearOfCentury
  let d ← f.candidate year isoYear
  if f.agreesWithDay d && f.agreesWithIsoWeek d && f.agreesWithOrdinal d then return d
  else .error .wrong

/-! ## Times -/

/-- The time that the parts fix.  A fraction needs a second. -/
def time (f : Fields) : Except Gap Time :=
  match f.half, f.hourOfHalf, f.minute with
  | some half, some hour, some minute =>
    let second := f.second.getD 0
    let leap := second == 60
    match f.nanosecond with
    | some n =>
      if f.second.isNone then .error .missing
      else
        .ok ⟨(half * 12 + hour).toNat, minute.toNat, (if leap then 59 else second).toNat,
          (n + if leap then 1000000000 else 0).toNat⟩
    | none =>
      .ok ⟨(half * 12 + hour).toNat, minute.toNat, (if leap then 59 else second).toNat,
        if leap then 1000000000 else 0⟩
  | _, _, _ => .error .missing

/-- Adds a second, unless the parts have a leap second.  Then the moment has to be the second before
or the one after it, and the moment before it is meant. -/
def putSecond? (f : Fields) (m : Moment) : Option (Fields × Moment) := do
  if f.second == some 60 then
    if m.time.second == 59 then return (f, m)
    else if m.time.second == 0 then return (f, ← Moment.ofSeconds? (m.seconds - 1))
    else none
  else return (← f.put? .second m.time.second, m)

/-- Adds the parts of a moment. -/
def putMoment? (f : Fields) (m : Moment) : Option Fields := do
  let (f, m) ← f.putSecond? m
  let f ← f.put? .year m.date.year
  let f ← f.put? .ordinal m.date.ordinal
  let f ← f.putHour? m.time.hour
  f.put? .minute m.time.minute

/-- Whether the seconds since 1970 are those of a moment.  A leap second may count as the next
second. -/
def agreesWithSeconds (f : Fields) (m : Moment) (offset : Int) : Bool :=
  match f.timestamp with
  | none => true
  | some t =>
    let seconds := m.seconds - offset
    t == seconds || (1000000000 ≤ m.time.nanosecond && t == seconds + 1)

/-- The day and the time that the parts fix on a clock that is some seconds ahead. -/
def moment? (f : Fields) (offset : Int) : Option Moment :=
  match f.date, f.time, f.timestamp with
  | .ok date, .ok time, _ =>
    if f.agreesWithSeconds ⟨date, time⟩ offset then some ⟨date, time⟩ else none
  | .error .wrong, _, _ => none
  | _, .error .wrong, _ => none
  | _, _, none => none
  | _, _, some timestamp => do
    let m ← Moment.ofSeconds? (timestamp + offset)
    let f ← f.putMoment? m
    match f.date, f.time with
    | .ok date, .ok time => return ⟨date, time⟩
    | _, _ => none

/-- The clock that the parts are read on: the one that they name, or that of UTC if they have
seconds since 1970. -/
def clock? (f : Fields) : Option Int :=
  match f.offset, f.timestamp with
  | some offset, _ => some offset
  | none, some _ => some 0
  | none, none => none

/-- The moment on the clock that the parts name. -/
def zonedMoment? (f : Fields) : Option ZonedMoment := do
  let offset ← f.clock?
  let m ← f.moment? offset
  if -86400 < offset && offset < 86400 then m.onClock? offset else none

/-- The moment that the parts fix, on the clock that they name or else on one that is given.  A day
without a time begins at midnight. -/
def resolve? (f : Fields) (zone : Int) : Option ZonedMoment :=
  match f.zonedMoment? with
  | some m => some m
  | none =>
    match f.moment? 0 with
    | some m => m.onClock? zone
    | none =>
      match f.date with
      | .ok d => (Moment.mk d .midnight).onClock? zone
      | .error _ => none

end Fields

end HtmlQuery.Calendar
