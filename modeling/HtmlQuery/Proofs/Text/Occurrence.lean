import HtmlQuery.Text.Occurrence
import Mathlib.Data.List.Infix
import Mathlib.Data.Nat.Find

/-!
# The first occurrence of a text

A list is cut at the first place where another one occurs if it is what stands before that place, the
other list and what stands behind, and if no occurrence begins earlier (`FirstCut`).  There is one
such cut wherever the other list occurs at all, and there is no second one.  Occurrences may overlap,
and an empty list occurs first at the front.

`before` and `after` give the two sides of this cut, and nothing where there is no occurrence.
-/

namespace HtmlQuery.Text

/-! ## Cuts -/

/-- A list is cut where another one occurs first. -/
structure FirstCut {α : Type} (text needle front back : List α) : Prop where
  /-- Nothing is lost. -/
  append_eq : front ++ needle ++ back = text
  /-- No occurrence begins earlier. -/
  least : ∀ front' back', front' ++ needle ++ back' = text → front.length ≤ front'.length

section Cuts

variable {α : Type} {text needle front back front' back' : List α}

theorem FirstCut.isInfix (h : FirstCut text needle front back) : needle <:+: text :=
  ⟨front, back, h.append_eq⟩

/-- Where a list occurs it occurs first somewhere. -/
theorem exists_firstCut (h : needle <:+: text) : ∃ front back, FirstCut text needle front back := by
  classical
  obtain ⟨front, back, hcut⟩ := h
  have hplaces : ∃ n front back, front ++ needle ++ back = text ∧ front.length = n :=
    ⟨front.length, front, back, hcut, rfl⟩
  obtain ⟨first, rest, hfirst, hlength⟩ := Nat.find_spec hplaces
  refine ⟨first, rest, hfirst, fun front' back' h' => ?_⟩
  rw [hlength]
  exact Nat.find_min' hplaces ⟨front', back', h', rfl⟩

/-- An occurrence stands behind all that is before the first one. -/
theorem FirstCut.isPrefix (h : FirstCut text needle front back)
    (h' : front' ++ needle ++ back' = text) : front <+: front' := by
  have hfront : front <+: text := ⟨needle ++ back, by rw [← List.append_assoc, h.append_eq]⟩
  have hfront' : front' <+: text := ⟨needle ++ back', by rw [← List.append_assoc, h']⟩
  exact List.prefix_of_prefix_length_le hfront hfront' (h.least front' back' h')

theorem dropInfix?_eq_some_iff [BEq α] [LawfulBEq α] :
    text.dropInfix? needle = some (front, back) ↔ FirstCut text needle front back := by
  rw [List.dropInfix?_eq_some_iff]
  constructor
  · rintro ⟨⟨found, htext, hfound⟩, hleast⟩
    obtain rfl := eq_of_beq hfound
    exact ⟨htext.symm, fun front' back' h => hleast front' found back' h.symm BEq.rfl⟩
  · intro h
    refine ⟨⟨needle, h.append_eq.symm, BEq.rfl⟩, fun front' found back' htext hfound => ?_⟩
    obtain rfl := eq_of_beq hfound
    exact h.least front' back' htext.symm

theorem dropInfix?_eq_none_iff [BEq α] [LawfulBEq α] :
    text.dropInfix? needle = none ↔ ¬ needle <:+: text := by
  constructor
  · intro hnone hinfix
    obtain ⟨front, back, hcut⟩ := exists_firstCut hinfix
    rw [dropInfix?_eq_some_iff.mpr hcut] at hnone
    cases hnone
  · intro hnone
    cases h : text.dropInfix? needle with
    | none => rfl
    | some cut => exact absurd (dropInfix?_eq_some_iff.mp h).isInfix hnone

end Cuts

/-! ## The search for characters -/

section Characters

variable {needle text : List Char}

theorem stripPrefix?_eq (front text : List Char) :
    stripPrefix? front text = text.dropPrefix? front := by
  induction front generalizing text with
  | nil => rw [stripPrefix?, List.dropPrefix?_nil]
  | cons a front ih =>
    cases text with
    | nil => rfl
    | cons b text =>
      rw [stripPrefix?, List.dropPrefix?, ih, BEq.comm]

/-- What has been passed already is put in front. -/
theorem dropInfix?_go_eq (needle text passed : List Char) :
    List.dropInfix?.go needle text passed =
      (splitAtFirst needle text).map fun cut => (passed.reverse ++ cut.1, cut.2) := by
  induction text generalizing passed with
  | nil => cases needle <;> simp [List.dropInfix?.go, splitAtFirst, stripPrefix?]
  | cons c cs ih =>
    rw [List.dropInfix?.go, splitAtFirst, stripPrefix?_eq]
    cases (c :: cs).dropPrefix? needle with
    | none => simp [ih, Function.comp_def]
    | some after => simp

theorem splitAtFirst_eq (needle text : List Char) :
    splitAtFirst needle text = text.dropInfix? needle := by
  rw [List.dropInfix?, dropInfix?_go_eq]
  simp

theorem occursIn_iff : occursIn needle text = true ↔ needle <:+: text := by
  induction text with
  | nil => rw [occursIn, List.isEmpty_iff, List.infix_nil]
  | cons c cs ih =>
    rw [occursIn, Bool.or_eq_true, ih, List.isPrefixOf_iff_prefix, List.infix_cons_iff]

end Characters

/-! ## Texts before and after -/

section Texts

variable {text needle front back : String}

theorem append_eq_iff :
    front ++ needle ++ back = text ↔ front.toList ++ needle.toList ++ back.toList = text.toList := by
  rw [← String.toList_inj, String.toList_append, String.toList_append]

theorem contains_iff : contains text needle = true ↔ needle.toList <:+: text.toList :=
  occursIn_iff

theorem contains_of_append_eq (h : front ++ needle ++ back = text) :
    contains text needle = true :=
  contains_iff.mpr ⟨front.toList, back.toList, append_eq_iff.mp h⟩

/-- What stands before and after is cut at the first occurrence. -/
theorem firstCut_of_contains (h : contains text needle = true) :
    FirstCut text.toList needle.toList (before text needle).toList (after text needle).toList := by
  obtain ⟨front, back, hcut⟩ := exists_firstCut (contains_iff.mp h)
  have hsplit : splitAtFirst needle.toList text.toList = some (front, back) := by
    rw [splitAtFirst_eq, dropInfix?_eq_some_iff.mpr hcut]
  rw [before, after, hsplit, String.toList_ofList, String.toList_ofList]
  exact hcut

theorem split_of_not_contains (h : contains text needle = false) :
    before text needle = "" ∧ after text needle = "" := by
  have hinfix : ¬ needle.toList <:+: text.toList := by
    rw [← contains_iff, h]
    exact Bool.false_ne_true
  rw [before, after, splitAtFirst_eq, dropInfix?_eq_none_iff.mpr hinfix]
  exact ⟨rfl, rfl⟩

/-- Put together with what was looked for, the two sides are the text exactly if it was there. -/
theorem before_append_after_iff :
    before text needle ++ needle ++ after text needle = text ↔ contains text needle = true := by
  constructor
  · exact contains_of_append_eq
  · intro h
    exact append_eq_iff.mpr (firstCut_of_contains h).append_eq

theorem length_before_le (h : front ++ needle ++ back = text) :
    (before text needle).length ≤ front.length := by
  have hcut := firstCut_of_contains (contains_of_append_eq h)
  rw [← String.length_toList, ← String.length_toList]
  exact hcut.least front.toList back.toList (append_eq_iff.mp h)

end Texts

end HtmlQuery.Text
