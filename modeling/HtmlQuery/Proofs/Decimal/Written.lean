import HtmlQuery.Decimal.Leading
import Mathlib

/-!
# Decimals as they are written

A `Written` decimal is the characters of a decimal: a sign, digits with at most one point, and an
exponent.  What counts as a digit is a parameter, since a text is cut by the digits of every script
and its value is read from the digits `0` to `9` only.

A decimal goes on with a digit, with a point or with an exponent.  So the longest one at the front
of a text stops where none of these follows (`Written.IsLongest.stops`).
-/

namespace HtmlQuery.Decimal

variable {isDigit isDigit' : Char → Bool}

/-- A sign, or nothing. -/
def IsSign (sign : Option Char) : Prop :=
  ∀ c ∈ sign, c = '+' ∨ c = '-'

/-- An exponent as it is written, with digits of a class. -/
structure WrittenExponent (isDigit : Char → Bool) where
  /-- The letter in front. -/
  letter : Char
  /-- The sign. -/
  sign : Option Char
  /-- The digits. -/
  digits : List Char
  letter_eq : letter = 'e' ∨ letter = 'E'
  isSign : IsSign sign
  digits_ne_nil : digits ≠ []
  all_isDigit : digits.all isDigit = true

/-- The characters of an exponent. -/
def WrittenExponent.text (e : WrittenExponent isDigit) : List Char :=
  e.letter :: (e.sign.toList ++ e.digits)

/-- A decimal as it is written, with digits of a class. -/
structure Written (isDigit : Char → Bool) where
  /-- The sign. -/
  sign : Option Char
  /-- The digits before the point. -/
  whole : List Char
  /-- The digits behind the point, if there is one. -/
  fraction : Option (List Char)
  /-- The exponent. -/
  exponent : Option (WrittenExponent isDigit)
  isSign : IsSign sign
  mantissa_ne_nil : whole ++ fraction.getD [] ≠ []
  all_isDigit : (whole ++ fraction.getD []).all isDigit = true

namespace Written

/-- The characters of the point and of what is behind it. -/
def fractionText (d : Written isDigit) : List Char :=
  d.fraction.elim [] ('.' :: ·)

/-- The characters of the exponent. -/
def exponentText (d : Written isDigit) : List Char :=
  d.exponent.elim [] WrittenExponent.text

/-- The characters of a decimal. -/
def text (d : Written isDigit) : List Char :=
  d.sign.toList ++ (d.whole ++ (d.fractionText ++ d.exponentText))

/-- All digits of a decimal. -/
def digits (d : Written isDigit) : List Char :=
  d.whole ++ d.fraction.getD [] ++ d.exponent.elim [] WrittenExponent.digits

/-- The decimal without the characters that it is written with. -/
def numeral (d : Written isDigit) : Numeral where
  negative := d.sign == some '-'
  whole := d.whole
  fraction := d.fraction.getD []
  exponent := exponentOf (d.exponent.map fun e => (e.sign, e.digits))

theorem digits_all (d : Written isDigit) : d.digits.all isDigit = true := by
  rw [digits, List.all_append, d.all_isDigit, Bool.true_and]
  cases d.exponent with
  | none => rfl
  | some e => exact e.all_isDigit

/-- A decimal whose digits belong to another class as well. -/
def retype (d : Written isDigit) (h : d.digits.all isDigit' = true) : Written isDigit' where
  sign := d.sign
  whole := d.whole
  fraction := d.fraction
  exponent := d.exponent.pmap (fun e he => { e with all_isDigit := he }) fun e he => by
    rw [digits, he, List.all_append, Bool.and_eq_true] at h
    exact h.2
  isSign := d.isSign
  mantissa_ne_nil := d.mantissa_ne_nil
  all_isDigit := by
    rw [digits, List.all_append, Bool.and_eq_true] at h
    exact h.1

@[simp] theorem text_retype (d : Written isDigit) (h : d.digits.all isDigit' = true) :
    (d.retype h).text = d.text := by
  obtain ⟨sign, whole, fraction, _ | e, _, _, _⟩ := d <;> rfl

@[simp] theorem numeral_retype (d : Written isDigit) (h : d.digits.all isDigit' = true) :
    (d.retype h).numeral = d.numeral := by
  obtain ⟨sign, whole, fraction, _ | e, _, _, _⟩ := d <;> rfl

@[simp] theorem digits_retype (d : Written isDigit) (h : d.digits.all isDigit' = true) :
    (d.retype h).digits = d.digits := by
  obtain ⟨sign, whole, fraction, _ | e, _, _, _⟩ := d <;> rfl

/-! ## How a decimal goes on -/

/-- A decimal goes on with any digit. -/
theorem exists_snoc (d : Written isDigit) {c : Char} (hc : isDigit c = true) :
    ∃ d' : Written isDigit, d'.text = d.text ++ [c] := by
  obtain ⟨sign, whole, fraction, exponent, hs, hne, hall⟩ := d
  cases exponent with
  | some e =>
    let e' : WrittenExponent isDigit :=
      { e with
        digits := e.digits ++ [c]
        digits_ne_nil := by simp
        all_isDigit := by simp [e.all_isDigit, hc] }
    exact ⟨⟨sign, whole, fraction, some e', hs, hne, hall⟩,
      by simp [text, fractionText, exponentText, WrittenExponent.text, e']⟩
  | none =>
    cases fraction with
    | some ds =>
      exact ⟨⟨sign, whole, some (ds ++ [c]), none, hs, by simp, by simpa [hc] using hall⟩,
        by simp [text, fractionText, exponentText]⟩
    | none =>
      exact ⟨⟨sign, whole ++ [c], none, none, hs, by simp, by simpa [hc] using hall⟩,
        by simp [text, fractionText, exponentText]⟩

/-- A decimal without a point goes on with one. -/
theorem exists_point (d : Written isDigit) (hf : d.fraction = none) (he : d.exponent = none) :
    ∃ d' : Written isDigit, d'.text = d.text ++ ['.'] := by
  obtain ⟨sign, whole, fraction, exponent, hs, hne, hall⟩ := d
  cases hf
  cases he
  exact ⟨⟨sign, whole, some [], none, hs, hne, hall⟩, by simp [text, fractionText, exponentText]⟩

/-- A decimal without an exponent goes on with one. -/
theorem exists_exponent (d : Written isDigit) (he : d.exponent = none)
    (e : WrittenExponent isDigit) : ∃ d' : Written isDigit, d'.text = d.text ++ e.text := by
  obtain ⟨sign, whole, fraction, exponent, hs, hne, hall⟩ := d
  cases he
  exact ⟨⟨sign, whole, fraction, some e, hs, hne, hall⟩, by simp [text, fractionText, exponentText]⟩

/-- A decimal does not go on with what follows it. -/
structure Stops (d : Written isDigit) (rest : List Char) : Prop where
  digit : ∀ c ∈ rest.head?, isDigit c = false
  point : d.fraction = none → d.exponent = none → rest.head? ≠ some '.'
  exponent : d.exponent = none → ∀ e : WrittenExponent isDigit, ¬ e.text <+: rest

/-- A decimal is the longest at the front of a text. -/
structure IsLongest (d : Written isDigit) (input : List Char) : Prop where
  isPrefix : d.text <+: input
  length_le : ∀ d' : Written isDigit, d'.text <+: input → d'.text.length ≤ d.text.length

/-- The longest decimal does not go on. -/
theorem IsLongest.stops {d : Written isDigit} {rest : List Char}
    (h : d.IsLongest (d.text ++ rest)) : d.Stops rest := by
  have hmore {more : List Char} (hne : more ≠ []) (hmore : more <+: rest) :
      ¬ ∃ d' : Written isDigit, d'.text = d.text ++ more := by
    rintro ⟨d', hd'⟩
    have hle := h.length_le d' (hd' ▸ (List.prefix_append_right_inj _).mpr hmore)
    rw [hd', List.length_append] at hle
    have := List.length_pos_iff.mpr hne
    omega
  have hhead {c : Char} (hc : rest.head? = some c) : [c] <+: rest := by
    obtain ⟨cs, rfl⟩ := List.head?_eq_some_iff.mp hc
    exact ⟨cs, rfl⟩
  constructor
  · intro c hc
    exact Bool.eq_false_of_not_eq_true fun hdigit =>
      hmore (by simp) (hhead hc) (d.exists_snoc hdigit)
  · exact fun hf he hc => hmore (by simp) (hhead hc) (d.exists_point hf he)
  · exact fun he e hprefix => hmore (List.cons_ne_nil _ _) hprefix (d.exists_exponent he e)

theorem isLongest_text (d : Written isDigit) : d.IsLongest d.text :=
  ⟨List.prefix_rfl, fun _ h => h.length_le⟩

/-- The characters that a decimal is written with, apart from digits. -/
def marks : List Char :=
  ['+', '-', '.', 'e', 'E']

theorem mem_marks_of_isSign {sign : Option Char} (hs : IsSign sign) {c : Char}
    (hc : c ∈ sign.toList) : c ∈ marks := by
  rcases hs c (Option.mem_toList.mp hc) with rfl | rfl <;> simp [marks]

theorem mem_exponent {e : WrittenExponent isDigit} {c : Char} (h : c ∈ e.text) :
    isDigit c = true ∨ c ∈ marks := by
  rw [WrittenExponent.text, List.mem_cons, List.mem_append] at h
  rcases h with rfl | hc | hc
  · exact .inr (by rcases e.letter_eq with hl | hl <;> simp [hl, marks])
  · exact .inr (mem_marks_of_isSign e.isSign hc)
  · exact .inl (List.all_eq_true.mp e.all_isDigit c hc)

theorem mem_text {d : Written isDigit} {c : Char} (h : c ∈ d.text) :
    isDigit c = true ∨ c ∈ marks := by
  have hdigit := List.all_eq_true.mp d.all_isDigit c
  rw [text, List.mem_append, List.mem_append, List.mem_append] at h
  rcases h with hc | hc | hc | hc
  · exact .inr (mem_marks_of_isSign d.isSign hc)
  · exact .inl (hdigit (List.mem_append_left _ hc))
  · cases hf : d.fraction with
    | none => simp [fractionText, hf] at hc
    | some fraction =>
      rw [fractionText, hf, Option.elim_some, List.mem_cons] at hc
      rcases hc with rfl | hc
      · exact .inr (by simp [marks])
      · exact .inl (hdigit (by simp [hf, hc]))
  · cases he : d.exponent with
    | none => simp [exponentText, he] at hc
    | some e =>
      rw [exponentText, he, Option.elim_some] at hc
      exact mem_exponent hc

/-- A character that occurs in no decimal ends the longest one. -/
theorem isLongest_append_cons (d : Written isDigit) {c : Char} (hc : isDigit c = false)
    (hc' : c ∉ marks) (rest : List Char) :
    d.IsLongest (d.text ++ c :: rest) := by
  refine ⟨List.prefix_append _ _, fun d' h => ?_⟩
  by_contra hlt
  have hmem : c ∈ d'.text := by
    obtain ⟨more, hmore⟩ := List.prefix_of_prefix_length_le (List.prefix_append _ _) h (by omega)
    rw [← hmore, List.prefix_append_right_inj] at h
    cases more with
    | nil => simp [← hmore] at hlt
    | cons m more =>
      rw [List.cons_prefix_cons] at h
      simp [← hmore, h.1]
  rcases mem_text hmem with hdigit | hother
  · rw [hc] at hdigit
    cases hdigit
  · exact hc' hother

/-- Where a text begins with a decimal, it begins with a longest one. -/
theorem exists_isLongest {input : List Char} (d : Written isDigit) (h : d.text <+: input) :
    ∃ d' : Written isDigit, d'.IsLongest input ∧ d.text.length ≤ d'.text.length := by
  by_cases hmax : ∀ d' : Written isDigit, d'.text <+: input → d'.text.length ≤ d.text.length
  · exact ⟨d, ⟨h, hmax⟩, le_rfl⟩
  · push Not at hmax
    obtain ⟨d', hprefix, hlt⟩ := hmax
    have hle := hprefix.length_le
    obtain ⟨longest, hlongest, hlength⟩ := d'.exists_isLongest hprefix
    exact ⟨longest, hlongest, hlt.le.trans hlength⟩
termination_by input.length - d.text.length

end Written

end HtmlQuery.Decimal
