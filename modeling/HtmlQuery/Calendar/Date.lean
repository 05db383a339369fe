/-!
# Days of the calendar

A `Date` is a year, a month and a day that exist together.  Years go on before year one, with a year
zero.  Weeks are counted in three ways: from the first Sunday of a year, from the first Monday, and
the weeks of ISO 8601, which belong to the year that their Thursday lies in.
-/

namespace HtmlQuery.Calendar

/-- Whether a year has a 29th of February. -/
def isLeapYear (year : Int) : Bool :=
  year % 4 == 0 && (year % 100 != 0 || year % 400 == 0)

/-- The number of days of a month. -/
def daysInMonth (year : Int) (month : Nat) : Nat :=
  if month == 2 then (if isLeapYear year then 29 else 28)
  else if [4, 6, 9, 11].contains month then 30
  else 31

/-- The number of days of a year. -/
def daysInYear (year : Int) : Nat :=
  if isLeapYear year then 366 else 365

/-- The years that dates have. -/
def yearInRange (year : Int) : Bool :=
  -262143 ≤ year && year ≤ 262142

/-- A day. -/
structure Date where
  /-- The year. -/
  year : Int
  /-- The month, from 1 to 12. -/
  month : Nat
  /-- The day of the month, from 1. -/
  day : Nat
deriving DecidableEq, Repr

/-- The day of a year, a month and a day, if there is one. -/
def Date.ofParts? (year : Int) (month day : Nat) : Option Date :=
  if yearInRange year && 1 ≤ month && month ≤ 12 && 1 ≤ day && day ≤ daysInMonth year month then
    some ⟨year, month, day⟩
  else none

/-- The month and the day of the `n`th day of a year, counted from a month on. -/
def monthAndDay (year : Int) : (months : Nat) → (month n : Nat) → Nat × Nat
  | 0, month, n => (month, n)
  | months + 1, month, n =>
    let days := daysInMonth year month
    if n ≤ days then (month, n) else monthAndDay year months (month + 1) (n - days)

/-- The `n`th day of a year, if there is one. -/
def Date.ofOrdinal? (year : Int) (n : Nat) : Option Date :=
  if yearInRange year && 1 ≤ n && n ≤ daysInYear year then
    let (month, day) := monthAndDay year 11 1 n
    some ⟨year, month, day⟩
  else none

/-- The number of the day in its year, from 1. -/
def Date.ordinal (d : Date) : Nat :=
  (List.range (d.month - 1)).foldl (fun days m => days + daysInMonth d.year (m + 1)) d.day

/-- The number of days from the first of January of year one to that of another year. -/
def daysBeforeYear (year : Int) : Int :=
  let y := year - 1
  365 * y + y / 4 - y / 100 + y / 400

/-- The number of days from the first of January of year one. -/
def Date.dayNumber (d : Date) : Int :=
  daysBeforeYear d.year + d.ordinal - 1

/-- The day of the week, Monday being 0. -/
def Date.weekday (d : Date) : Nat :=
  (d.dayNumber % 7).toNat

/-- How many days after a day of the week another one comes. -/
def daysSince (weekday start : Nat) : Nat :=
  (weekday + 7 - start) % 7

/-- The week of the year, counted from the first day of the week `start`. -/
def Date.weekFrom (d : Date) (start : Nat) : Nat :=
  (d.ordinal + 6 - daysSince d.weekday start) / 7

/-- The first day of the first ISO week of a year: the Monday of the week with the 4th of January.
It is given by the number of days from the first of January of year one. -/
def isoYearStart (year : Int) : Int :=
  let fourth := daysBeforeYear year + 3
  fourth - fourth % 7

/-- The year and the week of ISO 8601. -/
def Date.isoWeek (d : Date) : Int × Nat :=
  let n := d.dayNumber
  let year :=
    if n < isoYearStart d.year then d.year - 1
    else if isoYearStart (d.year + 1) ≤ n then d.year + 1
    else d.year
  (year, ((n - isoYearStart year) / 7).toNat + 1)

/-- The day a number of days after the first of January of a year, which may lie in the year before
or after. -/
def Date.ofOffset? (year : Int) (days : Int) : Option Date :=
  if days < 0 then ofOrdinal? (year - 1) (daysInYear (year - 1) + days + 1).toNat
  else if (daysInYear year : Int) ≤ days then
    ofOrdinal? (year + 1) (days - daysInYear year + 1).toNat
  else ofOrdinal? year (days + 1).toNat

/-- The day of an ISO year, a week and a day of the week. -/
def Date.ofIsoWeek? (year : Int) (week weekday : Nat) : Option Date :=
  let weeks := (isoYearStart (year + 1) - isoYearStart year) / 7
  if week < 1 || weeks < week then none
  else ofOffset? year (isoYearStart year + 7 * (week - 1 : Nat) + weekday - daysBeforeYear year)

/-- The day of a year, a week counted from the first day `start` of the week, and a day of the
week. -/
def Date.ofWeek? (year : Int) (week weekday start : Nat) : Option Date := do
  let first ← ofOrdinal? year 1
  let firstStart := 1 + daysSince start first.weekday
  let n := firstStart + 7 * week + daysSince weekday start
  if week ≤ 53 && 7 < n then ofOrdinal? year (n - 7) else none

/-- A time of the day. -/
structure Time where
  /-- The hour. -/
  hour : Nat
  /-- The minute. -/
  minute : Nat
  /-- The second, 59 in a leap second. -/
  second : Nat
  /-- The nanosecond, from a thousand million on in a leap second. -/
  nanosecond : Nat
deriving DecidableEq, Repr

/-- The first moment of a day. -/
def Time.midnight : Time :=
  ⟨0, 0, 0, 0⟩

/-- A day and a time on some clock. -/
structure Moment where
  /-- The day. -/
  date : Date
  /-- The time. -/
  time : Time
deriving DecidableEq, Repr

/-- The day number of the first of January 1970. -/
def epochDay : Int := 719162

/-- The seconds since the first moment of 1970 on the same clock. -/
def Moment.seconds (m : Moment) : Int :=
  (m.date.dayNumber - epochDay) * 86400 + m.time.hour * 3600 + m.time.minute * 60 + m.time.second

/-- A year that a day number lies in or next to. -/
def guessYear (dayNumber : Int) : Int :=
  dayNumber * 400 / 146097 + 1

/-- The moment some seconds after the first moment of 1970. -/
def Moment.ofSeconds? (seconds : Int) : Option Moment := do
  let dayNumber := seconds / 86400 + epochDay
  let rest := (seconds % 86400).toNat
  let year := guessYear dayNumber
  let date ← Date.ofOffset? year (dayNumber - daysBeforeYear year)
  return ⟨date, ⟨rest / 3600, rest / 60 % 60, rest % 60, 0⟩⟩

/-- A moment on a clock that is some seconds ahead of UTC. -/
structure ZonedMoment where
  /-- What the clock shows. -/
  moment : Moment
  /-- The seconds that the clock is ahead. -/
  offset : Int
deriving DecidableEq, Repr

/-- What a clock shows at a moment, if the day at which it is then in UTC exists. -/
def Moment.onClock? (m : Moment) (offset : Int) : Option ZonedMoment :=
  (Moment.ofSeconds? (m.seconds - offset)).map fun _ => ⟨m, offset⟩

end HtmlQuery.Calendar
