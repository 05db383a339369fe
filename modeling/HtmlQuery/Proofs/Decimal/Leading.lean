import HtmlQuery.Proofs.Decimal.Written
import HtmlQuery.Proofs.Text.Blank

/-!
# Numbers at the front of a text

A number at the front of a text is cut out with the digits of every script, and has a value only if
its digits are those of ASCII.  So what follows a number in ASCII digits is ignored exactly if the
number does not go on with a digit of another script (`leading_number_exact`).
-/

namespace HtmlQuery.Decimal

/-! ## Cutting out the parts -/

variable {rest digits : List Char} {sign : Option Char}

/-- A sign in front of what is no sign. -/
theorem splitSign_append (hs : IsSign sign) (hr : ∀ c ∈ rest.head?, c ≠ '+' ∧ c ≠ '-') :
    splitSign (sign.toList ++ rest) = (sign, rest) := by
  cases sign with
  | none =>
    rw [Option.toList_none, List.nil_append]
    unfold splitSign
    split
    · exact absurd rfl (hr '+' rfl).1
    · exact absurd rfl (hr '-' rfl).2
    · rfl
  | some c => rcases hs c rfl with rfl | rfl <;> rfl

theorem splitSign_eq (text : List Char) :
    IsSign (splitSign text).1 ∧ (splitSign text).1.toList ++ (splitSign text).2 = text := by
  unfold splitSign
  split
  · exact ⟨fun c hc => .inl (Option.some.inj hc).symm, rfl⟩
  · exact ⟨fun c hc => .inr (Option.some.inj hc).symm, rfl⟩
  · exact ⟨nofun, rfl⟩

/-- All digits in front of what is no digit. -/
theorem splitDigits_append (hd : digits.all Text.isDigit = true)
    (hr : ∀ c ∈ rest.head?, Text.isDigit c = false) :
    splitDigits (digits ++ rest) = (digits, rest) := by
  have hstop : rest.takeWhile Text.isDigit = [] ∧ rest.dropWhile Text.isDigit = rest := by
    cases rest with
    | nil => exact ⟨rfl, rfl⟩
    | cons c cs => simp [hr c rfl]
  rw [List.all_eq_true] at hd
  rw [splitDigits, List.takeWhile_append_of_pos hd, List.dropWhile_append_of_pos hd, hstop.1,
    hstop.2, List.append_nil]

theorem not_isSign_of_isDigit {c : Char} (h : Text.isDigit c = true) : c ≠ '+' ∧ c ≠ '-' := by
  constructor <;> rintro rfl
  · exact absurd h (by rw [Text.isDigit_of_lt (by decide)]; decide)
  · exact absurd h (by rw [Text.isDigit_of_lt (by decide)]; decide)

theorem isDigit_point : Text.isDigit '.' = false := by
  rw [Text.isDigit_of_lt (by decide)]
  decide

/-- Digits begin with a digit. -/
theorem isDigit_of_head? {c : Char} (hne : digits ≠ []) (hd : digits.all Text.isDigit = true)
    (hc : c ∈ (digits ++ rest).head?) : Text.isDigit c = true := by
  obtain ⟨d, ds, rfl⟩ := List.exists_cons_of_ne_nil hne
  obtain rfl : d = c := Option.some.inj hc
  simpa using (List.all_eq_true.mp hd) d (by simp)

theorem WrittenExponent.isDigit_letter (e : WrittenExponent Text.isDigit) :
    Text.isDigit e.letter = false := by
  rcases e.letter_eq with h | h <;> rw [h, Text.isDigit_of_lt (by decide)] <;> decide

namespace Written

variable {d : Written Text.isDigit}

/-- What follows the sign of a decimal is no sign. -/
theorem not_isSign_head (d : Written Text.isDigit) :
    ∀ c ∈ (d.whole ++ (d.fractionText ++ rest)).head?, c ≠ '+' ∧ c ≠ '-' := by
  obtain ⟨sign, whole, fraction, exponent, hs, hne, hall⟩ := d
  intro c hc
  rw [List.all_append, Bool.and_eq_true] at hall
  rcases whole with _ | ⟨w, whole⟩
  · cases fraction with
    | none => exact absurd rfl hne
    | some fraction =>
      obtain rfl : '.' = c := Option.some.inj hc
      decide
  · exact not_isSign_of_isDigit (isDigit_of_head? (by simp) hall.1 hc)

/-- The digits and the point are cut out in front of what does not go on with them. -/
theorem splitMantissa_append (d : Written Text.isDigit)
    (hr : ∀ c ∈ rest.head?, Text.isDigit c = false)
    (hpoint : d.fraction = none → rest.head? ≠ some '.') :
    splitMantissa (d.whole ++ (d.fractionText ++ rest)) =
      some (d.whole, d.fraction.getD [], rest) := by
  obtain ⟨sign, whole, fraction, exponent, hs, hne, hall⟩ := d
  rw [List.all_append, Bool.and_eq_true] at hall
  cases fraction with
  | none =>
    have hw : splitDigits (whole ++ rest) = (whole, rest) := splitDigits_append hall.1 hr
    have hwhole : whole ≠ [] := by simpa using hne
    rw [fractionText, Option.elim_none, List.nil_append, splitMantissa, hw]
    split
    case h_1 heq => exact absurd (Prod.mk.inj heq).1 hwhole
    case h_2 heq => exact absurd (Prod.mk.inj heq).1 hwhole
    case h_3 heq => exact absurd (congrArg List.head? (Prod.mk.inj heq).2) (hpoint rfl)
    case h_4 heq => cases heq; rfl
  | some fraction =>
    have hf : splitDigits (fraction ++ rest) = (fraction, rest) := splitDigits_append hall.2 hr
    have hw : splitDigits (whole ++ '.' :: (fraction ++ rest)) =
        (whole, '.' :: (fraction ++ rest)) :=
      splitDigits_append hall.1 fun c hc => Option.some.inj hc ▸ isDigit_point
    rw [fractionText, Option.elim_some, List.cons_append, splitMantissa, hw]
    split
    case h_1 heq =>
      cases heq
      rw [hf]
      split
      case h_1 heq => exact absurd (Prod.mk.inj heq).1 (by simpa using hne)
      case h_2 heq => cases heq; rfl
    case h_2 hafter heq => exact (hafter _ (Prod.mk.inj heq).2.symm).elim
    case h_3 heq => cases heq; rw [hf]; rfl
    case h_4 hafter heq => exact (hafter _ (Prod.mk.inj heq).2.symm).elim

/-- An exponent is cut out in front of what is no digit. -/
theorem splitExponent_append (e : WrittenExponent Text.isDigit)
    (hr : ∀ c ∈ rest.head?, Text.isDigit c = false) :
    splitExponent (e.text ++ rest) = some (e.sign, e.digits) := by
  obtain ⟨letter, sign, digits, hletter, hs, hne, hall⟩ := e
  have hsign : splitSign (sign.toList ++ (digits ++ rest)) = (sign, digits ++ rest) :=
    splitSign_append hs fun c hc => not_isSign_of_isDigit (isDigit_of_head? hne hall hc)
  have hletter' : (letter == 'e' || letter == 'E') = true := by simpa using hletter
  rw [WrittenExponent.text, List.cons_append, splitExponent, if_pos hletter', List.append_assoc,
    hsign]
  simp only [splitDigits_append hall hr]

/-- What is cut out as an exponent is one. -/
theorem exists_of_splitExponent {parts : Option Char × List Char}
    (h : splitExponent rest = some parts) : ∃ e : WrittenExponent Text.isDigit, e.text <+: rest := by
  cases rest with
  | nil => cases h
  | cons c rest =>
    rw [splitExponent] at h
    split at h
    case isFalse => cases h
    case isTrue hc =>
      obtain ⟨hs, hrest⟩ := splitSign_eq rest
      rcases hsplit : splitSign rest with ⟨sign, after⟩
      rw [hsplit] at h hs hrest
      dsimp only at h hs hrest
      have hdigits : splitDigits after = (after.takeWhile Text.isDigit, _) := rfl
      have hne : after.takeWhile Text.isDigit ≠ [] := by
        intro hnil
        rw [hdigits, hnil] at h
        cases h
      refine ⟨⟨c, sign, after.takeWhile Text.isDigit, by simpa using hc, hs, hne,
        List.all_takeWhile⟩, after.dropWhile Text.isDigit, ?_⟩
      rw [WrittenExponent.text, List.cons_append, List.append_assoc, List.takeWhile_append_dropWhile,
        hrest]

/-- What is read at the front of a text that begins with a decimal and does not go on with it. -/
theorem leadingNumeral?_append (h : d.Stops rest) :
    leadingNumeral? (d.text ++ rest) =
      if d.digits.all Text.isAsciiDigit then some d.numeral else none := by
  have hexponent : splitExponent (d.exponentText ++ rest) =
      d.exponent.map fun e => (e.sign, e.digits) := by
    rw [exponentText]
    cases he : d.exponent with
    | none =>
      refine Option.eq_none_iff_forall_ne_some.mpr fun parts hparts => ?_
      obtain ⟨e, hprefix⟩ := exists_of_splitExponent hparts
      exact h.exponent he e hprefix
    | some e => exact splitExponent_append e h.digit
  have hmantissa : splitMantissa (d.whole ++ (d.fractionText ++ (d.exponentText ++ rest))) =
      some (d.whole, d.fraction.getD [], d.exponentText ++ rest) := by
    apply d.splitMantissa_append
    · rw [exponentText]
      cases he : d.exponent with
      | none => exact h.digit
      | some e => exact fun c hc => Option.some.inj hc ▸ e.isDigit_letter
    · intro hf
      rw [exponentText]
      cases he : d.exponent with
      | none => exact h.point hf he
      | some e =>
        intro hc
        rcases e.letter_eq with hletter | hletter <;> cases hletter.symm.trans (Option.some.inj hc)
  have hsign : splitSign (d.text ++ rest) =
      (d.sign, d.whole ++ (d.fractionText ++ (d.exponentText ++ rest))) := by
    rw [text, List.append_assoc, List.append_assoc, List.append_assoc]
    exact splitSign_append d.isSign d.not_isSign_head
  have hdigits : d.whole ++ d.fraction.getD [] ++
      ((d.exponent.map fun e => (e.sign, e.digits)).map (·.2)).getD [] = d.digits := by
    rw [digits]
    cases d.exponent <;> rfl
  rw [leadingNumeral?, hsign]
  simp only [hmantissa, Option.bind_eq_bind, Option.bind_some, hexponent, hdigits]
  rfl

end Written

/-! ## Integers -/

/-- An integer in digits of ASCII and a text behind it that does not begin with such a digit, between
blanks. -/
structure PaddedInteger where
  /-- The blanks at the front. -/
  before : List Char
  /-- The sign. -/
  sign : Option Char
  /-- The digits. -/
  digits : List Char
  /-- The text behind the integer. -/
  rest : List Char
  /-- The blanks at the end. -/
  after : List Char
  before_isBlank : before.all Text.isBlank = true
  isSign : IsSign sign
  digits_ne_nil : digits ≠ []
  all_isAsciiDigit : digits.all Text.isAsciiDigit = true
  rest_head : ∀ c ∈ rest.head?, Text.isAsciiDigit c = false
  after_isBlank : after.all Text.isBlank = true

theorem fitsInt64_iff (n : Int) : fitsInt64 n = true ↔ -2 ^ 63 ≤ n ∧ n < 2 ^ 63 := by
  rw [fitsInt64, Bool.and_eq_true, decide_eq_true_eq, decide_eq_true_eq]
  norm_num

theorem natOfDigits_eq_ofDigits (digits : List Char) :
    natOfDigits digits = Nat.ofDigits 10 (digits.reverse.map digitValue) := by
  rw [natOfDigits, Nat.ofDigits_eq_foldr, List.foldr_map, List.foldr_reverse]
  simp only [Nat.cast_id, Nat.add_comm]

namespace PaddedInteger

/-- The text with the integer in it. -/
def text (i : PaddedInteger) : String :=
  String.ofList (i.before ++ (i.sign.toList ++ i.digits ++ (i.rest ++ i.after)))

/-- The integer that is written. -/
def value (i : PaddedInteger) : Int :=
  let size : Nat := Nat.ofDigits 10 (i.digits.reverse.map digitValue)
  if i.sign = some '-' then -size else size

/-- What is left between the blanks. -/
theorem trimBy_text (i : PaddedInteger) :
    Text.trimBy Text.isBlank i.text.toList =
      i.sign.toList ++ (i.digits ++ Text.dropEndBy Text.isBlank i.rest) := by
  have hfront : ∀ c ∈ i.sign.toList ++ i.digits, Text.isBlank c = false := by
    intro c hc
    rcases List.mem_append.mp hc with hc | hc
    · rcases i.isSign c (Option.mem_toList.mp hc) with rfl | rfl <;> decide
    · refine Bool.eq_false_of_not_eq_true fun hblank => ?_
      have hdigit := Text.isDigit_of_isAsciiDigit (List.all_eq_true.mp i.all_isAsciiDigit c hc)
      exact absurd hdigit (by simp [Text.isDigit_of_isBlank hblank])
  rw [text, String.toList_ofList, Text.trimBy_append i.before_isBlank hfront
    (by simp [i.digits_ne_nil]), Text.dropEndBy_append_of_all i.after_isBlank, List.append_assoc]

/-- An integer is read from a text with one in front exactly if it does not go on with a digit of
another script and is in range. -/
theorem leadingInteger?_text (i : PaddedInteger) :
    leadingInteger? i.text =
      if i.rest.head?.any Text.isDigit then none
      else if -2 ^ 63 ≤ i.value ∧ i.value < 2 ^ 63 then some i.value else none := by
  have hall : i.digits.all Text.isDigit = true := Text.all_isDigit i.all_isAsciiDigit
  have hsign : splitSign (Text.trimBy Text.isBlank i.text.toList) =
      (i.sign, i.digits ++ Text.dropEndBy Text.isBlank i.rest) := by
    rw [i.trimBy_text]
    exact splitSign_append i.isSign fun c hc =>
      not_isSign_of_isDigit (isDigit_of_head? i.digits_ne_nil hall hc)
  rw [leadingInteger?, hsign]
  cases hrest : i.rest.head?.any Text.isDigit with
  | false =>
    have hdigits : splitDigits (i.digits ++ Text.dropEndBy Text.isBlank i.rest) =
        (i.digits, Text.dropEndBy Text.isBlank i.rest) := by
      refine splitDigits_append hall fun c hc => ?_
      rw [Text.mem_head?_of_dropEndBy hc, Option.any_some] at hrest
      exact hrest
    have hempty : i.digits.isEmpty = false := by simp [i.digits_ne_nil]
    have hvalue : (if i.sign == some '-' then -(natOfDigits i.digits : Int)
        else natOfDigits i.digits) = i.value := by
      simp only [natOfDigits_eq_ofDigits, value, beq_iff_eq]
    simp only [hdigits, hempty, i.all_isAsciiDigit, Bool.not_true, Bool.or_self, Bool.false_eq_true,
      ↓reduceIte, hvalue, fitsInt64_iff]
  | true =>
    obtain ⟨c, hc, hdigit⟩ := (Option.any_eq_true _ _).mp hrest
    obtain ⟨cs, hcs⟩ := List.head?_eq_some_iff.mp hc
    have hblank : Text.isBlank c = false := Bool.eq_false_of_not_eq_true fun hblank => by
      rw [Text.isDigit_of_isBlank hblank] at hdigit
      cases hdigit
    have htail : Text.dropEndBy Text.isBlank i.rest = c :: Text.dropEndBy Text.isBlank cs := by
      rw [hcs, ← List.singleton_append, Text.dropEndBy_append (by simp [hblank])]
      rfl
    have hascii : (splitDigits (i.digits ++ Text.dropEndBy Text.isBlank i.rest)).1.all
        Text.isAsciiDigit = false := by
      rw [splitDigits, htail, List.takeWhile_append_of_pos (List.all_eq_true.mp hall),
        List.takeWhile_cons_of_pos hdigit, List.all_append, List.all_cons, i.rest_head c hc]
      simp
    simp only [hascii, Bool.not_false, Bool.or_true, ↓reduceIte]

end PaddedInteger

/-! ## Decimals -/

/-- The numeral of the longest decimal in digits of any script, if they are all of ASCII. -/
theorem leadingNumeral?_of_isLongest {d : Written Text.isDigit} {input : List Char}
    (h : d.IsLongest input) :
    leadingNumeral? input = if d.digits.all Text.isAsciiDigit then some d.numeral else none := by
  obtain ⟨rest, rfl⟩ := h.isPrefix
  exact Written.leadingNumeral?_append h.stops

/-- The decimal at the front of a text has its value if it does not go on in digits of another
script, and otherwise there is none. -/
theorem leadingNumeral?_of_ascii {d : Written Text.isAsciiDigit} {input : List Char}
    (h : d.IsLongest input) :
    ((∀ w : Written Text.isDigit, w.text <+: input → w.text.length ≤ d.text.length) →
      leadingNumeral? input = some d.numeral) ∧
    ((∃ w : Written Text.isDigit, w.text <+: input ∧ d.text.length < w.text.length) →
      leadingNumeral? input = none) := by
  have hdigits : d.digits.all Text.isDigit = true := Text.all_isDigit d.digits_all
  constructor
  · intro hmax
    have hlongest : (d.retype hdigits).IsLongest input :=
      ⟨by simpa using h.isPrefix, by simpa using hmax⟩
    rw [leadingNumeral?_of_isLongest hlongest, Written.digits_retype, d.digits_all, if_pos rfl,
      Written.numeral_retype]
  · rintro ⟨w, hw, hlt⟩
    obtain ⟨longest, hlongest, hle⟩ := w.exists_isLongest hw
    rw [leadingNumeral?_of_isLongest hlongest, if_neg]
    intro hascii
    have hshort := h.length_le (longest.retype hascii) (by simpa using hlongest.isPrefix)
    rw [Written.text_retype] at hshort
    omega

/-- Numbers at the front of a text are cut out with the digits of every script and read with those of
ASCII.  An integer in ASCII digits is read, if it is one of 64 bits, exactly where the text behind
it does not begin with a digit of another script.  The value of a text that begins with a decimal in
ASCII digits is that of the longest one exactly where no longer front of the text is a decimal in
digits of any script, and otherwise there is none. -/
theorem leading_number_exact (i : PaddedInteger) {text : String} {d : Written Text.isAsciiDigit}
    (hd : d.IsLongest (Text.trimBy Text.isBlank text.toList)) :
    leadingInteger? i.text =
      (if i.rest.head?.any Text.isDigit then none
      else if -2 ^ 63 ≤ i.value ∧ i.value < 2 ^ 63 then some i.value else none) ∧
    ((∀ w : Written Text.isDigit, w.text <+: Text.trimBy Text.isBlank text.toList →
      w.text.length ≤ d.text.length) → leadingDecimal? text = some d.numeral.toFloat) ∧
    ((∃ w : Written Text.isDigit, w.text <+: Text.trimBy Text.isBlank text.toList ∧
      d.text.length < w.text.length) → leadingDecimal? text = none) := by
  obtain ⟨hvalue, hnone⟩ := leadingNumeral?_of_ascii hd
  refine ⟨i.leadingInteger?_text, fun hmax => ?_, fun hlonger => ?_⟩
  · rw [leadingDecimal?, hvalue hmax, Option.map_some]
  · rw [leadingDecimal?, hnone hlonger, Option.map_none]

/-- Lengths with their unit behind them. -/
theorem leading_number_exact_px :
    leadingInteger? " -42px " = some (-42) ∧
      leadingDecimal? "1.5px" = some (Numeral.toFloat ⟨false, ['1'], ['5'], 0⟩) := by
  let i : PaddedInteger :=
    ⟨[' '], some '-', ['4', '2'], ['p', 'x'], [' '], by decide, by simp [IsSign], by simp, by decide,
      by simp; decide, by decide⟩
  let d : Written Text.isAsciiDigit :=
    ⟨none, ['1'], some ['5'], none, nofun, by simp, by decide⟩
  let w : Written Text.isDigit := d.retype (by decide)
  have hp : Text.isDigit 'p' = false := by
    rw [Text.isDigit_of_lt (by decide)]
    decide
  have hd : d.IsLongest (Text.trimBy Text.isBlank "1.5px".toList) :=
    d.isLongest_append_cons (by decide) (by decide) ['x']
  have hw : w.IsLongest (Text.trimBy Text.isBlank "1.5px".toList) :=
    w.isLongest_append_cons hp (by decide) ['x']
  obtain ⟨hinteger, hdecimal, -⟩ := leading_number_exact i hd
  have hrest : i.rest.head?.any Text.isDigit = false := by
    rw [List.head?_cons, Option.any_some, hp]
  have hvalue : i.value = -42 := by decide +kernel
  rw [hrest, if_neg (by simp), hvalue, if_pos (by norm_num)] at hinteger
  exact ⟨hinteger, hdecimal hw.length_le⟩

/-- The third digit is an Arabic one. -/
theorem isDigit_arabic : Text.isDigit '٣' = true := by
  rw [Text.isDigit, Text.inRanges, ← Array.foldl_toList]
  decide +kernel

/-- A digit of another script behind a number takes its value away. -/
theorem leading_number_none :
    leadingInteger? "12٣" = none ∧ leadingDecimal? "12٣" = none := by
  let i : PaddedInteger :=
    ⟨[], none, ['1', '2'], ['٣'], [], by decide, nofun, by simp, by decide, by simp; decide,
      by decide⟩
  let w : Written Text.isDigit :=
    ⟨none, ['1', '2', '٣'], none, none, nofun, by simp, by
      simp [isDigit_arabic, Text.isDigit_of_lt, Text.isAsciiDigit]⟩
  have hrest : i.rest.head?.any Text.isDigit = true := by
    rw [List.head?_cons, Option.any_some, isDigit_arabic]
  have hinteger := i.leadingInteger?_text
  rw [if_pos hrest] at hinteger
  have hdecimal := leadingNumeral?_of_isLongest w.isLongest_text
  have hascii : ¬ w.digits.all Text.isAsciiDigit = true := by decide +kernel
  rw [if_neg hascii] at hdecimal
  have htrim : Text.trimBy Text.isBlank "12٣".toList = w.text := by decide
  rw [leadingDecimal?, htrim, hdecimal]
  exact ⟨hinteger, rfl⟩

end HtmlQuery.Decimal
