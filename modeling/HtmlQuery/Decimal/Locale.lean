import HtmlQuery.Decimal.Leading

/-!
# Decimals in the notation of a locale

A locale has a character for the decimal point and characters that group digits.  The locale is
known by its language and, where that matters, its region; an unknown one has the point of
`en_US`.
-/

namespace HtmlQuery.Decimal

/-- The separators of a locale. -/
structure Separators where
  /-- What stands for the decimal point. -/
  decimal : Char
  /-- What may stand between groups of digits. -/
  grouping : List Char
deriving DecidableEq, Repr

/-- A point, and commas between groups. -/
def pointComma : Separators :=
  ⟨'.', [',']⟩

/-- A comma, and points between groups. -/
def commaPoint : Separators :=
  ⟨',', ['.']⟩

/-- A comma, and spaces between groups. -/
def commaSpace : Separators :=
  ⟨',', [' ', '\u00A0', '\u202F']⟩

/-- A point, and apostrophes between groups. -/
def pointApostrophe : Separators :=
  ⟨'.', ['\'', '\u2019']⟩

/-- The languages with a comma, and spaces between groups. -/
def commaSpaceLanguages : List String :=
  ["fr", "ru", "uk", "pl", "cs", "sk", "sv", "nb", "no", "fi", "hu", "bg"]

/-- The languages with a comma, and points between groups. -/
def commaPointLanguages : List String :=
  ["de", "es", "it", "nl", "pt", "da", "tr", "id", "ro", "hr", "sl", "sr", "el"]

/-- The separators of a language in a region, both in lower case. -/
def separatorsFor (language region : String) : Separators :=
  if language == "rm" || (["de", "fr", "it"].contains language && region == "ch") then
    pointApostrophe
  else if commaSpaceLanguages.contains language then commaSpace
  else if commaPointLanguages.contains language then commaPoint
  else pointComma

/-- The language and the region of a locale such as `de_CH` or `de-CH`, in lower case. -/
def languageAndRegion (locale : String) : String × String :=
  let text := (Text.trimBy Text.isBlank locale.toList).map fun c =>
    if c == '-' then '_' else c.toLower
  (String.ofList (text.takeWhile (· != '_')), String.ofList ((text.dropWhile (· != '_')).drop 1))

/-- The separators of a locale. -/
def separators : Option String → Separators
  | none => pointComma
  | some locale =>
    let (language, region) := languageAndRegion locale
    separatorsFor language region

/-- The decimal that a text in the notation of a locale begins with. -/
def leadingDecimalIn? (locale : Option String) (text : String) : Option Float :=
  let s := separators locale
  let kept := (Text.trimBy Text.isBlank text.toList).filter (! s.grouping.contains ·)
  let plain := kept.map fun c => if c == s.decimal then '.' else c
  leadingDecimal? (String.ofList plain)

end HtmlQuery.Decimal
