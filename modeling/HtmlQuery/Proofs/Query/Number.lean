import HtmlQuery.Proofs.Decimal.Numeral
import HtmlQuery.Proofs.Query.Layout

/-!
# Numbers in expressions and in strings

In an expression a number is cut off the front of what is left, with one character looked at ahead,
and `1.2.3` is more than one token.  A string is a number as a whole or not at all, white space
around it apart.  Without a minus sign both take the same texts and come to the same double
(`tokenize_eq_number_iff`).  In front of a string a minus sign may stand next to what is a number
without one, and nowhere else: in an expression it is a token of its own.
-/

namespace HtmlQuery

/-! ## One number in an expression -/

section Tokens

variable {afterOperand : Bool} {c : Char} {cs text whole fraction after : List Char}
  {n : Decimal.Numeral}

theorem BeginsNumber.scan_eq (h : BeginsNumber c cs) :
    scan afterOperand c cs = .ok (scanNumber c cs) := by
  cases h with
  | digit hc => exact scan_of_isAsciiDigit hc
  | point hd => exact scan_point hd

/-- The digits of a fraction end where the text pauses. -/
theorem IsFraction.cutFraction_append (h : IsFraction fraction) (hafter : Pauses after) :
    (cutFraction (fraction ++ after)).front = fraction := by
  cases h with
  | nil =>
    refine cutFraction_of_ne_point fun hpoint => ?_
    exact absurd (hafter '.' hpoint) (by decide)
  | point hds =>
    have hstop : ∀ c ∈ after.head?, Text.isAsciiDigit c = false :=
      fun c hc => isAsciiDigit_of_isSpace (hafter c hc)
    exact congrArg (List.cons '.') (takeWhile_append_of_not_next hds hstop).1

/-- No digit stands in front of a fraction, nor where the text pauses. -/
theorem IsFraction.not_next (h : IsFraction fraction) (hafter : Pauses after) :
    ∀ c ∈ (fraction ++ after).head?, Text.isAsciiDigit c = false := by
  cases h with
  | nil => exact fun c hc => isAsciiDigit_of_isSpace (hafter c hc)
  | point =>
    rintro _ ⟨⟩
    rfl

theorem IsUnsigned.begins (h : IsUnsigned whole fraction) :
    ∃ c cs, whole ++ fraction = c :: cs ∧ ∀ after, BeginsNumber c (cs ++ after) := by
  obtain ⟨hwhole, hfraction, hsome⟩ := h
  cases whole with
  | cons c cs => exact ⟨c, cs ++ fraction, rfl, fun _ => .digit (hwhole c List.mem_cons_self)⟩
  | nil =>
    cases hfraction with
    | nil => simp at hsome
    | @point ds hds =>
      cases ds with
      | nil => simp at hsome
      | cons d ds => exact ⟨'.', d :: ds, rfl, fun _ => .point (hds d List.mem_cons_self)⟩

/-- A text that is a number is read as this number where it ends or pauses. -/
theorem scans_number (h : unsignedNumber? text = some n) (hafter : Pauses after) :
    Scans afterOperand text after (.number n.toFloat) := by
  have hspace := isSpace_eq_false_of_unsignedNumber? h
  obtain ⟨whole, fraction, rfl, hparts⟩ := exists_of_unsignedNumber? h
  obtain ⟨c, cs, hcs, hbegin⟩ := hparts.begins
  obtain ⟨htake, hdrop⟩ := takeWhile_append_of_not_next hparts.whole_digits
    (hparts.isFraction.not_next hafter)
  have hfront : (scanNumber c (cs ++ after)).front = whole ++ fraction := by
    rw [(hbegin after).front_scanNumber, ← List.cons_append, ← hcs, List.append_assoc, htake,
      hdrop, hparts.isFraction.cutFraction_append hafter]
  obtain ⟨m, hm, htoken⟩ := (hbegin after).unsignedNumber?_scanNumber
  rw [hfront, h] at hm
  obtain rfl := Option.some.inj hm
  refine ⟨c, cs, hcs, hspace c ?_, _, (hbegin after).scan_eq, hfront, htoken⟩
  rw [hcs]
  exact List.mem_cons_self

theorem eq_singleton_of_located {start : Nat} {pieces : List Piece} {t : Located}
    (h : Piece.located start pieces = [t]) : ∃ p, pieces = [p] ∧ p.token = t.token := by
  cases pieces with
  | nil => cases h
  | cons p ps =>
    obtain ⟨rfl, hps⟩ := List.cons.inj h
    cases ps with
    | nil => exact ⟨p, rfl, rfl⟩
    | cons => cases hps

/-- An expression is one number if it is a text of this number, white space around it apart. -/
theorem tokenize_eq_number_iff {expression : String} {value : Float} :
    (∃ position, tokenize expression = .ok [⟨.number value, position⟩]) ↔
      ∃ n, unsignedNumber? (Text.trimBy Text.isSpace expression.toList) = some n ∧
        n.toFloat = value := by
  constructor
  · rintro ⟨position, h⟩
    obtain ⟨pieces, last, htext, hlast, hlocated, -⟩ := exists_pieces h
    obtain ⟨p, rfl, htoken⟩ := eq_singleton_of_located hlocated
    have hspelled := p.spelled
    rw [htoken] at hspelled
    obtain ⟨n, hn, hvalue⟩ := hspelled
    rw [List.flatMap_singleton, Piece.text, List.append_assoc] at htext
    rw [htext, Text.trimBy_padded p.blank hlast,
      Text.trimBy_of_not_blank (isSpace_eq_false_of_unsignedNumber? hn)]
    exact ⟨n, hn, hvalue⟩
  · rintro ⟨n, hn, rfl⟩
    obtain ⟨before, after, hbefore, hafter, htext⟩ :=
      Text.exists_trimBy Text.isSpace expression.toList
    have hne : Text.trimBy Text.isSpace expression.toList ≠ [] := by
      intro hnil
      rw [hnil] at hn
      cases hn
    let piece : Piece := ⟨before, _, .number n.toFloat, hbefore, ⟨n, hn, rfl⟩, hne⟩
    have hread : Piece.ReadBefore after false [piece] :=
      ⟨scans_number hn fun c hc => hafter c (List.mem_of_mem_head? hc), trivial⟩
    refine ⟨0 + byteLength before, ?_⟩
    rw [← String.ofList_toList (s := expression), htext]
    have htokens := hread.tokenize_eq hafter
    rwa [List.flatMap_singleton, Piece.text, List.append_assoc] at htokens

end Tokens

/-! ## The number that a string is -/

section Strings

variable {text : String} {digits : List Char}

theorem isNaN_notANumber : notANumber.isNaN = true := by
  decide +kernel

theorem numberOfText_eq (h : (Text.trimBy Text.isSpace text.toList).head? ≠ some '-') :
    numberOfText text = (unsignedNumber? (Text.trimBy Text.isSpace text.toList)).elim notANumber
      Decimal.Numeral.toFloat := by
  simp only [numberOfText]
  split
  next hminus =>
    rw [hminus] at h
    exact absurd rfl h
  next => cases unsignedNumber? (Text.trimBy Text.isSpace text.toList) <;> rfl

theorem numberOfText_minus (h : Text.trimBy Text.isSpace text.toList = '-' :: digits) :
    numberOfText text = (unsignedNumber? digits).elim notANumber fun n =>
      Decimal.Numeral.toFloat { n with negative := true } := by
  simp only [numberOfText, h]
  cases unsignedNumber? digits <;> rfl

/-- What is read as a numeral is a number, and nothing else is. -/
theorem isNaN_elim {numeral : Option Decimal.Numeral} {f : Decimal.Numeral → Float}
    (hf : ∀ n, (f n).isNaN = false) :
    (numeral.elim notANumber f).isNaN = false ↔ ∃ n, numeral = some n := by
  cases numeral with
  | none =>
    rw [Option.elim_none, isNaN_notANumber]
    exact iff_of_false (by decide) nofun
  | some n => exact iff_of_true (hf n) ⟨n, rfl⟩

theorem numberOfText_isNaN_iff (h : (Text.trimBy Text.isSpace text.toList).head? ≠ some '-') :
    (numberOfText text).isNaN = false ↔
      ∃ n, unsignedNumber? (Text.trimBy Text.isSpace text.toList) = some n := by
  rw [numberOfText_eq h]
  exact isNaN_elim Decimal.Numeral.isNaN_toFloat

/-- White space behind a minus sign is not taken off, and white space at the end is. -/
theorem numberOfText_minus_isNaN_iff :
    (numberOfText ("-" ++ text)).isNaN = false ↔
      ∃ n, unsignedNumber? (Text.dropEndBy Text.isSpace text.toList) = some n := by
  have htrim : Text.trimBy Text.isSpace ("-" ++ text).toList =
      '-' :: Text.dropEndBy Text.isSpace text.toList := by
    have hminus : "-".toList = ['-'] := rfl
    rw [String.toList_append, hminus]
    show Text.trimBy _ ([] ++ (['-'] ++ text.toList)) = ['-'] ++ _
    exact Text.trimBy_append rfl (List.forall_mem_singleton.mpr rfl) (List.cons_ne_nil _ _) _
  rw [numberOfText_minus htrim]
  exact isNaN_elim fun n => Decimal.Numeral.isNaN_toFloat _

/-- A number begins with neither white space nor a minus sign, also before white space. -/
theorem head?_of_unsignedNumber? {n : Decimal.Numeral} {s : List Char}
    (h : unsignedNumber? (Text.dropEndBy Text.isSpace s) = some n) :
    (∀ c ∈ s.head?, Text.isSpace c = false) ∧ s.head? ≠ some '-' := by
  cases hs : Text.dropEndBy Text.isSpace s with
  | nil =>
    rw [hs] at h
    cases h
  | cons d ds =>
    rw [hs] at h
    have hhead : s.head? = some d := Text.mem_head?_of_dropEndBy (by rw [hs]; rfl)
    rw [hhead]
    refine ⟨?_, ?_⟩
    · rintro _ ⟨⟩
      exact isSpace_eq_false_of_unsignedNumber? h d List.mem_cons_self
    · rintro ⟨⟩
      exact absurd (digit_or_point_of_unsignedNumber? h '-' List.mem_cons_self) (by decide)

end Strings

/-! ## The two grammars -/

/-- A string without a minus sign is a number if and only if the expression with its characters is
one number, and the number is the same.  A string that begins with a minus sign is a number if and
only if what follows is one without a sign, and no white space comes between. -/
theorem number_grammars_agree (text : String) :
    ('-' ∉ text.toList →
      ((numberOfText text).isNaN = false ↔
          ∃ value position, tokenize text = .ok [⟨.number value, position⟩]) ∧
        ∀ value position, tokenize text = .ok [⟨.number value, position⟩] →
          numberOfText text = value) ∧
      ((numberOfText ("-" ++ text)).isNaN = false ↔
        (∀ c ∈ text.toList.head?, Text.isSpace c = false) ∧ text.toList.head? ≠ some '-' ∧
          (numberOfText text).isNaN = false) := by
  refine ⟨fun hminus => ?_, ?_⟩
  · have hunsigned : (Text.trimBy Text.isSpace text.toList).head? ≠ some '-' := by
      intro he
      obtain ⟨before, after, -, -, htext⟩ := Text.exists_trimBy Text.isSpace text.toList
      refine hminus ?_
      rw [htext]
      exact List.mem_append_right _ (List.mem_append_left _ (List.mem_of_mem_head? he))
    refine ⟨?_, fun value position h => ?_⟩
    · rw [numberOfText_isNaN_iff hunsigned]
      constructor
      · rintro ⟨n, hn⟩
        exact ⟨n.toFloat, tokenize_eq_number_iff.mpr ⟨n, hn, rfl⟩⟩
      · rintro ⟨value, h⟩
        obtain ⟨n, hn, -⟩ := tokenize_eq_number_iff.mp h
        exact ⟨n, hn⟩
    · obtain ⟨n, hn, hvalue⟩ := tokenize_eq_number_iff.mp ⟨position, h⟩
      rw [numberOfText_eq hunsigned, hn]
      exact hvalue
  · rw [numberOfText_minus_isNaN_iff]
    have hsame : (∀ c ∈ text.toList.head?, Text.isSpace c = false) →
        text.toList.head? ≠ some '-' → ((numberOfText text).isNaN = false ↔
          ∃ n, unsignedNumber? (Text.dropEndBy Text.isSpace text.toList) = some n) := by
      intro hspace hminus
      rw [← Text.trimBy_eq_dropEndBy hspace]
      refine numberOfText_isNaN_iff fun he => hminus ?_
      rw [Text.trimBy_eq_dropEndBy hspace] at he
      exact Text.mem_head?_of_dropEndBy he
    constructor
    · rintro ⟨n, hn⟩
      obtain ⟨hspace, hminus⟩ := head?_of_unsignedNumber? hn
      exact ⟨hspace, hminus, (hsame hspace hminus).mpr ⟨n, hn⟩⟩
    · rintro ⟨hspace, hminus, hnumber⟩
      exact (hsame hspace hminus).mp hnumber

/-- A number with white space around it, and a minus sign in front of the white space. -/
theorem number_grammars_agree_padded : '-' ∉ " .5\n".toList ∧
    (numberOfText " .5\n").isNaN = false ∧
    (∃ value position, tokenize " .5\n" = .ok [⟨.number value, position⟩]) ∧
    (numberOfText ("-" ++ " .5\n")).isNaN ≠ false := by
  have hminus : '-' ∉ " .5\n".toList := by decide
  obtain ⟨hunsigned, hsigned⟩ := number_grammars_agree " .5\n"
  have hnumber : (numberOfText " .5\n").isNaN = false := by decide +kernel
  refine ⟨hminus, hnumber, (hunsigned hminus).1.mp hnumber, fun h => ?_⟩
  exact absurd ((hsigned.mp h).1 ' ' rfl) (by decide)

end HtmlQuery
