import HtmlQuery.Text.Blank

/-!
# Patterns of dates

A pattern says how a date is written.  A percent sign and a letter stand for a part of the date,
white space for any white space, and all else for itself.  Between the percent sign and the letter
of a number may stand `-`, `_` or `0`, which say how the number is padded when it is written and
nothing about reading it.
-/

namespace HtmlQuery.Calendar

/-- The parts of a date that are numbers. -/
inductive NumberField where
  | year
  | century
  | yearOfCentury
  | isoYear
  | isoYearOfCentury
  | quarter
  | month
  | day
  | weekFromSunday
  | weekFromMonday
  | isoWeek
  | weekdayFromSunday
  | weekdayFromMonday
  | ordinal
  | hour
  | hourOfHalf
  | minute
  | second
  | nanosecond
  | timestamp
deriving DecidableEq, Repr

/-- How the offset of a clock is written. -/
inductive OffsetStyle where
  /-- A sign, hours and minutes. -/
  | full
  /-- As before, or without minutes, or the letter `Z`. -/
  | lenient
deriving DecidableEq, Repr

/-- A part of a pattern. -/
inductive PatternItem where
  /-- A text that stands for itself. -/
  | literal (text : List Char)
  /-- Any white space. -/
  | blank
  /-- A number. -/
  | number (field : NumberField)
  /-- The name of a month, the short one or, where allowed, the long one. -/
  | monthName (long : Bool)
  /-- The name of a day of the week, the short one or, where allowed, the long one. -/
  | weekdayName (long : Bool)
  /-- The half of the day. -/
  | half
  /-- A point and a fraction of a second, of so many digits where a count is given, or nothing. -/
  | fraction (count : Option Nat)
  /-- A fraction of a second of so many digits, without a point. -/
  | fractionDigits (count : Nat)
  /-- The offset of a clock. -/
  | offset (style : OffsetStyle)
  /-- The name of a zone, which is skipped. -/
  | zoneName
  /-- The letter or the space between a date and a time. -/
  | dateTimeSeparator
  /-- The offset of a clock, `UTC` or `Z`. -/
  | offsetOrUtc
deriving DecidableEq, Repr

/-- The numbers that a letter stands for. -/
def numberOfLetter? : Char → Option NumberField
  | 'Y' => some .year
  | 'C' => some .century
  | 'y' => some .yearOfCentury
  | 'G' => some .isoYear
  | 'g' => some .isoYearOfCentury
  | 'q' => some .quarter
  | 'm' => some .month
  | 'd' => some .day
  | 'e' => some .day
  | 'U' => some .weekFromSunday
  | 'W' => some .weekFromMonday
  | 'V' => some .isoWeek
  | 'w' => some .weekdayFromSunday
  | 'u' => some .weekdayFromMonday
  | 'j' => some .ordinal
  | 'H' => some .hour
  | 'k' => some .hour
  | 'I' => some .hourOfHalf
  | 'l' => some .hourOfHalf
  | 'M' => some .minute
  | 'S' => some .second
  | 'f' => some .nanosecond
  | 's' => some .timestamp
  | _ => none

/-- Hours, minutes and seconds with colons between them. -/
def clockItems : List PatternItem :=
  [.number .hour, .literal [':'], .number .minute, .literal [':'], .number .second]

/-- Month, day and year of the century with slashes between them. -/
def slashItems : List PatternItem :=
  [.number .month, .literal ['/'], .number .day, .literal ['/'], .number .yearOfCentury]

/-- Year, month and day with hyphens between them. -/
def hyphenItems : List PatternItem :=
  [.number .year, .literal ['-'], .number .month, .literal ['-'], .number .day]

/-- What a letter that is no number stands for. -/
def itemsOfLetter? : Char → Option (List PatternItem)
  | 'A' => some [.weekdayName true]
  | 'a' => some [.weekdayName false]
  | 'B' => some [.monthName true]
  | 'b' => some [.monthName false]
  | 'h' => some [.monthName false]
  | 'P' => some [.half]
  | 'p' => some [.half]
  | 'Z' => some [.zoneName]
  | 'z' => some [.offset .full]
  | 'n' => some [.blank]
  | 't' => some [.blank]
  | '%' => some [.literal ['%']]
  | 'D' => some slashItems
  | 'x' => some slashItems
  | 'F' => some hyphenItems
  | 'R' => some (clockItems.take 3)
  | 'T' => some clockItems
  | 'X' => some clockItems
  | 'r' =>
    some [.number .hourOfHalf, .literal [':'], .number .minute, .literal [':'], .number .second,
      .blank, .half]
  | 'v' =>
    some [.number .day, .literal ['-'], .monthName false, .literal ['-'], .number .year]
  | 'c' =>
    some ([.weekdayName false, .blank, .monthName false, .blank, .number .day, .blank] ++
      clockItems ++ [.blank, .number .year])
  | '+' =>
    some ([.number .year, .blank, .literal ['-'], .number .month, .blank, .literal ['-'],
      .number .day, .dateTimeSeparator, .number .hour, .blank, .literal [':'], .number .minute,
      .blank, .literal [':'], .number .second, .fraction none, .blank, .offsetOrUtc])
  | _ => none

/-- What stands behind a percent sign, and the rest of the pattern. -/
def splitItem? : List Char → Option (List PatternItem × List Char)
  | '#' :: 'z' :: rest => some ([.offset .lenient], rest)
  | ':' :: ':' :: ':' :: 'z' :: rest => some ([.offset .full], rest)
  | ':' :: ':' :: 'z' :: rest => some ([.offset .full], rest)
  | ':' :: 'z' :: rest => some ([.offset .full], rest)
  | '.' :: 'f' :: rest => some ([.fraction none], rest)
  | '.' :: '3' :: 'f' :: rest => some ([.fraction (some 3)], rest)
  | '.' :: '6' :: 'f' :: rest => some ([.fraction (some 6)], rest)
  | '.' :: '9' :: 'f' :: rest => some ([.fraction (some 9)], rest)
  | '3' :: 'f' :: rest => some ([.fractionDigits 3], rest)
  | '6' :: 'f' :: rest => some ([.fractionDigits 6], rest)
  | '9' :: 'f' :: rest => some ([.fractionDigits 9], rest)
  | c :: rest =>
    if c == '-' || c == '_' || c == '0' then
      match rest with
      | d :: rest => (numberOfLetter? d).map fun field => ([.number field], rest)
      | [] => none
    else
      match numberOfLetter? c with
      | some field => some ([.number field], rest)
      | none => (itemsOfLetter? c).map fun items => (items, rest)
  | [] => none

theorem length_of_splitItem? {s rest : List Char} {items : List PatternItem}
    (h : splitItem? s = some (items, rest)) : rest.length < s.length := by
  revert h
  unfold splitItem?
  split <;> intro h
  all_goals try (simp at h; obtain ⟨_, rfl⟩ := h; simp; try omega)
  · rename_i c rest' _ _ _ _ _ _ _ _ _ _ _
    split at h
    · split at h
      · simp at h
        obtain ⟨_, _, _, rfl⟩ := h
        simp only [List.length_cons]
        omega
      · simp at h
    · split at h
      · simp at h
        obtain ⟨_, rfl⟩ := h
        simp
      · simp at h
        obtain ⟨_, _, _, rfl⟩ := h
        simp
  · simp at h

/-- The parts of a pattern, if every percent sign stands for something. -/
def patternItems? : List Char → Option (List PatternItem)
  | [] => some []
  | '%' :: rest =>
    match h : splitItem? rest with
    | none => none
    | some (items, rest') =>
      have := length_of_splitItem? h
      (patternItems? rest').map (items ++ ·)
  | c :: rest =>
    (patternItems? rest).map ((if Text.isBlank c then .blank else .literal [c]) :: ·)
termination_by s => s.length
decreasing_by all_goals simp_wf; try omega

end HtmlQuery.Calendar
