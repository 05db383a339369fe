import HtmlQuery.Decimal.Locale
import HtmlQuery.Proofs.Decimal.Leading

/-!
# Decimals in the notation of a locale

There are four notations, and in each of them the decimal separator and the characters that group
digits are apart from each other and from all that a decimal is written with besides the point
(`isNotation_separators`).  So leaving out what groups digits and writing a point for the decimal
separator undoes the notation, wherever groups were made and whatever blanks stand around
(`grouped_decimal_read`).
-/

namespace HtmlQuery.Decimal

/-! ## Notations -/

/-- The separators of a notation have no part in a decimal, save for the point. -/
structure Separators.IsNotation (s : Separators) : Prop where
  isAsciiDigit_eq_false : ∀ c ∈ s.decimal :: s.grouping, Text.isAsciiDigit c = false
  eq_point_of_mem_marks : ∀ c ∈ s.decimal :: s.grouping, c ∈ Written.marks → c = '.'
  decimal_not_mem : s.decimal ∉ s.grouping
  isBlank_decimal : Text.isBlank s.decimal = false

/-- The four notations. -/
def notations : List Separators :=
  [pointComma, commaPoint, commaSpace, pointApostrophe]

theorem separatorsFor_mem (language region : String) :
    separatorsFor language region ∈ notations := by
  unfold separatorsFor
  split
  · simp [notations]
  · split
    · simp [notations]
    · split <;> simp [notations]

/-- Whatever the locale is, it has one of the four notations. -/
theorem separators_mem (locale : Option String) : separators locale ∈ notations := by
  cases locale with
  | none => simp [separators, notations]
  | some locale => exact separatorsFor_mem _ _

theorem isNotation_separators (locale : Option String) : (separators locale).IsNotation := by
  have hmem := separators_mem locale
  generalize separators locale = s at hmem
  simp only [notations, List.mem_cons, List.not_mem_nil, or_false] at hmem
  rcases hmem with rfl | rfl | rfl | rfl
  all_goals
    constructor <;> simp [pointComma, commaPoint, commaSpace, pointApostrophe, Text.isAsciiDigit,
      Text.isBlank, Written.marks]

/-! ## Writing a decimal in a notation -/

/-- How a character of a decimal is written. -/
def Separators.write (s : Separators) (c : Char) : Char :=
  if c == '.' then s.decimal else c

/-- A text with separators put in, any number of them at any places. -/
inductive Grouped (grouping : List Char) : List Char → List Char → Prop where
  | nil : Grouped grouping [] []
  | keep {plain text : List Char} (c : Char) (h : Grouped grouping plain text) :
      Grouped grouping (c :: plain) (c :: text)
  | put {plain text : List Char} {c : Char} (hc : c ∈ grouping) (h : Grouped grouping plain text) :
      Grouped grouping plain (c :: text)

/-- The characters that a decimal may be written with. -/
def IsDecimalChar (c : Char) : Prop :=
  Text.isAsciiDigit c = true ∨ c ∈ Written.marks

section Notation

variable {s : Separators} {c : Char} {plain text : List Char}

theorem IsDecimalChar.isBlank_eq_false (hc : IsDecimalChar c) : Text.isBlank c = false := by
  have hmarks : ∀ c ∈ Written.marks, Text.isBlank c = false := by
    simp [Written.marks, Text.isBlank]
  cases hc with
  | inl hdigit =>
    refine Bool.eq_false_of_not_eq_true fun hblank => ?_
    rw [Text.isAsciiDigit_of_isBlank hblank] at hdigit
    cases hdigit
  | inr hmark => exact hmarks c hmark

/-- Of the characters of a decimal only the point can be a separator. -/
theorem Separators.IsNotation.eq_point (hs : s.IsNotation) (hc : IsDecimalChar c)
    (hmem : c ∈ s.decimal :: s.grouping) : c = '.' := by
  cases hc with
  | inl hdigit =>
    rw [hs.isAsciiDigit_eq_false c hmem] at hdigit
    cases hdigit
  | inr hmark => exact hs.eq_point_of_mem_marks c hmem hmark

theorem Separators.IsNotation.write_not_mem (hs : s.IsNotation) (hc : IsDecimalChar c) :
    s.write c ∉ s.grouping := by
  intro hmem
  by_cases hpoint : c = '.'
  · subst hpoint
    exact hs.decimal_not_mem hmem
  · simp only [write, beq_iff_eq, hpoint, if_false] at hmem
    exact hpoint (hs.eq_point hc (List.mem_cons_of_mem _ hmem))

theorem Separators.IsNotation.isBlank_write (hs : s.IsNotation) (hc : IsDecimalChar c) :
    Text.isBlank (s.write c) = false := by
  by_cases hpoint : c = '.'
  · subst hpoint
    exact hs.isBlank_decimal
  · simp only [write, beq_iff_eq, hpoint, if_false]
    exact hc.isBlank_eq_false

/-- Writing a point for the decimal separator undoes the notation. -/
theorem Separators.IsNotation.point_write (hs : s.IsNotation) (hc : IsDecimalChar c) :
    (if s.write c == s.decimal then '.' else s.write c) = c := by
  by_cases hpoint : c = '.'
  · subst hpoint
    simp [write]
  · have hne : c ≠ s.decimal := fun hdecimal =>
      hpoint (hs.eq_point hc (hdecimal ▸ List.mem_cons_self))
    simp [write, hpoint, hne]

/-- Leaving the separators out gives back what they were put into. -/
theorem Grouped.filter_eq {grouping : List Char} (h : Grouped grouping plain text)
    (hplain : ∀ c ∈ plain, c ∉ grouping) : text.filter (! grouping.contains ·) = plain := by
  induction h with
  | nil => rfl
  | keep c h ih =>
    rw [List.forall_mem_cons] at hplain
    simpa [hplain.1] using ih hplain.2
  | put hc h ih => simpa [hc] using ih hplain

end Notation

/-! ## Reading it -/

/-- A decimal that is all of a text is read. -/
theorem leadingDecimal?_text (d : Written Text.isAsciiDigit) :
    leadingDecimal? (String.ofList d.text) = some d.numeral.toFloat := by
  have hdigits : d.digits.all Text.isDigit = true := Text.all_isDigit d.digits_all
  have hlongest := (d.retype hdigits).isLongest_text
  rw [Written.text_retype] at hlongest
  have hblank : ∀ c ∈ d.text, Text.isBlank c = false :=
    fun c hc => IsDecimalChar.isBlank_eq_false (Written.mem_text hc)
  rw [leadingDecimal?, String.toList_ofList, Text.trimBy_of_not_blank hblank,
    leadingNumeral?_of_isLongest hlongest, Written.digits_retype, d.digits_all, if_pos rfl,
    Written.numeral_retype, Option.map_some]

/-- A text in the notation of a locale reads as the plain text does: the decimal separator stands
for the point, what groups digits may stand anywhere, and blanks around it do not count.  If the
plain text is a decimal, its value is read. -/
theorem grouped_decimal_read {locale : Option String} {plain before text after : List Char}
    (hplain : ∀ c ∈ plain, IsDecimalChar c)
    (htext : Grouped (separators locale).grouping (plain.map (separators locale).write) text)
    (hbefore : ∀ c ∈ before, Text.isBlank c = true)
    (hafter : ∀ c ∈ after, Text.isBlank c = true) :
    leadingDecimalIn? locale (String.ofList (before ++ (text ++ after))) =
      leadingDecimal? (String.ofList plain) ∧
    ∀ d : Written Text.isAsciiDigit, d.text = plain →
      leadingDecimalIn? locale (String.ofList (before ++ (text ++ after))) =
        some d.numeral.toFloat := by
  have hs := isNotation_separators locale
  have hkept := htext.filter_eq (List.forall_mem_map.mpr fun c hc => hs.write_not_mem (hplain c hc))
  have hblank : ∀ c ∈ text.filter (! (separators locale).grouping.contains ·),
      Text.isBlank c = false := by
    rw [hkept]
    exact List.forall_mem_map.mpr fun c hc => hs.isBlank_write (hplain c hc)
  have hback : (plain.map (separators locale).write).map
      (fun c => if c == (separators locale).decimal then '.' else c) = plain := by
    rw [List.map_map]
    exact (List.map_congr_left fun c hc => hs.point_write (hplain c hc)).trans (List.map_id plain)
  have hread : leadingDecimalIn? locale (String.ofList (before ++ (text ++ after))) =
      leadingDecimal? (String.ofList plain) := by
    simp only [leadingDecimalIn?, String.toList_ofList]
    rw [Text.trimBy_padded hbefore hafter, Text.filter_trimBy hblank, hkept, hback]
  refine ⟨hread, fun d hd => ?_⟩
  rw [hread, ← hd, leadingDecimal?_text]

/-- In German a point may stand between any two characters, and a comma stands for the point. -/
theorem grouped_decimal_read_german :
    (∀ c ∈ ['-', '1', '2', '.', '5'], IsDecimalChar c) ∧
      Grouped (separators (some "de-AT")).grouping
        (['-', '1', '2', '.', '5'].map (separators (some "de-AT")).write)
        ['-', '.', '1', '2', ',', '.', '.', '5'] ∧
      (∀ c ∈ ['\t'], Text.isBlank c = true) ∧ (∀ c ∈ ['\u00A0'], Text.isBlank c = true) ∧
      leadingDecimalIn? (some "de-AT") "\t-.12,..5\u00A0" = leadingDecimal? "-12.5" ∧
      leadingDecimalIn? (some "de-AT") "\t-.12,..5\u00A0" =
        some (Numeral.toFloat ⟨true, ['1', '2'], ['5'], 0⟩) := by
  have hplain : ∀ c ∈ ['-', '1', '2', '.', '5'], IsDecimalChar c := by
    simp [IsDecimalChar, Written.marks, Text.isAsciiDigit]
  have hlocale : separators (some "de-AT") = commaPoint := by decide
  have htext : Grouped (separators (some "de-AT")).grouping
      (['-', '1', '2', '.', '5'].map (separators (some "de-AT")).write)
      ['-', '.', '1', '2', ',', '.', '.', '5'] := by
    rw [hlocale]
    exact .keep _ (.put (by decide) (.keep _ (.keep _ (.keep _ (.put (by decide)
      (.put (by decide) (.keep _ .nil)))))))
  have hbefore : ∀ c ∈ ['\t'], Text.isBlank c = true := by simp [Text.isBlank]
  have hafter : ∀ c ∈ ['\u00A0'], Text.isBlank c = true := by simp [Text.isBlank]
  obtain ⟨hsame, hvalue⟩ := grouped_decimal_read hplain htext hbefore hafter
  let d : Written Text.isAsciiDigit :=
    ⟨some '-', ['1', '2'], some ['5'], none, by simp [IsSign], by simp, by decide⟩
  exact ⟨hplain, htext, hbefore, hafter, hsame, hvalue d rfl⟩

end HtmlQuery.Decimal
