import HtmlQuery.Text.Alphabetic
import HtmlQuery.Text.Blank
import HtmlQuery.Text.Digit
import Mathlib

/-!
# Digits, and blanks at the ends of a text

No digit and no letter of any script is a blank (`isDigit_of_isBlank`, `isAlphabetic_of_isBlank`).
Trimming takes blanks off both ends, and what stands in front and has no blank in it stays
(`trimBy_append`).
-/

namespace HtmlQuery.Text

/-! ## Digits and blanks -/

/-- Nothing below the first bound is in the set. -/
theorem inRanges_of_lt {bounds : Array Nat} {n : Nat} (h : ∀ bound ∈ bounds.toList, n < bound) :
    inRanges bounds n = false := by
  rw [inRanges, ← Array.foldl_toList]
  generalize bounds.toList = bounds at h
  induction bounds with
  | nil => rfl
  | cons bound bounds ih =>
    rw [List.forall_mem_cons] at h
    rw [List.foldl_cons, if_neg h.1.not_ge]
    exact ih h.2

theorem isAsciiDigit_iff {c : Char} : isAsciiDigit c = true ↔ 0x30 ≤ c.toNat ∧ c.toNat ≤ 0x39 := by
  rw [isAsciiDigit, Bool.and_eq_true, decide_eq_true_eq, decide_eq_true_eq]
  exact and_congr UInt32.le_iff_toNat_le UInt32.le_iff_toNat_le

theorem isDigit_of_isAsciiDigit {c : Char} (h : isAsciiDigit c = true) : isDigit c = true := by
  rw [isDigit, h, Bool.true_or]

theorem all_isDigit {cs : List Char} (h : cs.all isAsciiDigit = true) : cs.all isDigit = true :=
  List.all_eq_true.mpr fun c hc => isDigit_of_isAsciiDigit (List.all_eq_true.mp h c hc)

/-- Below the digits of other scripts there are those of ASCII only. -/
theorem isDigit_of_lt {c : Char} (h : c.toNat < 0x660) : isDigit c = isAsciiDigit c := by
  have hbounds : ∀ bound ∈ digitBounds.toList, 0x660 ≤ bound := by decide +kernel
  rw [isDigit, inRanges_of_lt fun bound hb => h.trans_le (hbounds bound hb), Bool.or_false]

/-- The white space of expressions is blank. -/
theorem isBlank_of_isSpace {c : Char} (h : isSpace c = true) : isBlank c = true := by
  simp only [isSpace, Bool.or_eq_true, beq_iff_eq] at h
  rcases h with ((rfl | rfl) | rfl) | rfl <;> decide

/-- The code points of the blanks. -/
def blankPoints : List Nat :=
  [9, 10, 11, 12, 13, 0x20, 0x85, 0xA0, 0x1680, 0x2000, 0x2001, 0x2002, 0x2003, 0x2004, 0x2005,
    0x2006, 0x2007, 0x2008, 0x2009, 0x200A, 0x2028, 0x2029, 0x202F, 0x205F, 0x3000]

theorem mem_blankPoints {c : Char} (h : isBlank c = true) : c.toNat ∈ blankPoints := by
  simp only [isBlank, Bool.or_eq_true, Bool.and_eq_true, decide_eq_true_eq, beq_iff_eq] at h
  simp only [blankPoints, List.mem_cons, List.not_mem_nil, or_false]
  omega

theorem isAsciiDigit_of_isBlank {c : Char} (h : isBlank c = true) : isAsciiDigit c = false := by
  have hpoints : ∀ n ∈ blankPoints, n < 0x30 ∨ 0x39 < n := by decide
  refine Bool.eq_false_of_not_eq_true fun hdigit => ?_
  have hpoint := hpoints _ (mem_blankPoints h)
  rw [isAsciiDigit_iff] at hdigit
  omega

theorem isDigit_of_isBlank {c : Char} (h : isBlank c = true) : isDigit c = false := by
  have hpoints : ∀ n ∈ blankPoints, inRanges digitBounds n = false := by
    simp only [inRanges, ← Array.foldl_toList]
    decide +kernel
  rw [isDigit, isAsciiDigit_of_isBlank h, hpoints _ (mem_blankPoints h), Bool.or_false]

theorem isAlphabetic_of_isBlank {c : Char} (h : isBlank c = true) : isAlphabetic c = false := by
  have hpoints : ∀ n ∈ blankPoints, inRanges alphabeticBounds n = false := by
    simp only [inRanges, ← Array.foldl_toList]
    decide +kernel
  have hletters : ∀ n ∈ blankPoints, (Char.ofNat n).isAlpha = false := by decide
  rw [isAlphabetic]
  split
  · rw [← Char.ofNat_toNat c]
    exact hletters _ (mem_blankPoints h)
  · exact hpoints _ (mem_blankPoints h)

/-! ## Blanks at the ends -/

variable {p : Char → Bool}

theorem dropEndBy_append_of_all {back : List Char} (h : back.all p = true) (s : List Char) :
    dropEndBy p (s ++ back) = dropEndBy p s := by
  rw [dropEndBy, List.reverse_append, List.dropWhile_append_of_pos (by simpa using h), dropEndBy]

/-- What does not end in a blank stays. -/
theorem dropEndBy_append {front : List Char} (h : ∀ c ∈ front.getLast?, p c = false)
    (s : List Char) : dropEndBy p (front ++ s) = front ++ dropEndBy p s := by
  have hfront : front.reverse.dropWhile p = front.reverse := by
    rw [List.dropWhile_eq_self_iff]
    intro hlength
    rw [← List.head_eq_getElem_zero (List.ne_nil_of_length_pos hlength), List.head_reverse]
    simpa using h _ (List.getLast?_eq_some_getLast _)
  rw [dropEndBy, List.reverse_append, List.dropWhile_append, dropEndBy]
  split
  case isTrue hs =>
    rw [hfront, List.isEmpty_iff.mp hs, List.reverse_reverse, List.reverse_nil, List.append_nil]
  case isFalse => rw [List.reverse_append, List.reverse_reverse]

theorem dropEndBy_isPrefix (s : List Char) : dropEndBy p s <+: s := by
  rw [← List.reverse_suffix, dropEndBy, List.reverse_reverse]
  exact List.dropWhile_suffix p

theorem mem_head?_of_dropEndBy {s : List Char} {c : Char} (h : c ∈ (dropEndBy p s).head?) :
    c ∈ s.head? := by
  obtain ⟨back, hback⟩ := dropEndBy_isPrefix (p := p) s
  rw [← hback, List.head?_append, h]
  rfl

/-- Without blanks in front, only the end is trimmed. -/
theorem trimBy_eq_dropEndBy {s : List Char} (h : ∀ c ∈ s.head?, p c = false) :
    trimBy p s = dropEndBy p s := by
  rw [trimBy]
  cases s with
  | nil => rfl
  | cons c cs => rw [List.dropWhile_cons_of_neg (Bool.eq_false_iff.mp (h c rfl))]

/-- Trimming takes blanks off both ends, and no more at the front. -/
theorem trimBy_append {before front : List Char} (hb : before.all p = true)
    (hf : ∀ c ∈ front, p c = false) (hne : front ≠ []) (s : List Char) :
    trimBy p (before ++ (front ++ s)) = front ++ dropEndBy p s := by
  have hhead : ∀ c ∈ (front ++ s).head?, p c = false := by
    obtain ⟨c, cs, rfl⟩ := List.exists_cons_of_ne_nil hne
    rintro _ ⟨⟩
    exact hf c List.mem_cons_self
  rw [trimBy, List.dropWhile_append_of_pos (by simpa using hb)]
  show trimBy p (front ++ s) = _
  rw [trimBy_eq_dropEndBy hhead, dropEndBy_append fun c hc => hf c (List.mem_of_getLast? hc)]

/-- Blanks around a text make no difference. -/
theorem trimBy_padded {before after : List Char} (hbefore : ∀ c ∈ before, p c = true)
    (hafter : ∀ c ∈ after, p c = true) (s : List Char) :
    trimBy p (before ++ (s ++ after)) = trimBy p s := by
  rw [trimBy, List.dropWhile_append_of_pos hbefore, List.dropWhile_append, trimBy]
  split
  case isTrue hs =>
    rw [List.isEmpty_iff.mp hs, List.dropWhile_eq_nil_iff.mpr hafter]
  case isFalse => rw [dropEndBy_append_of_all (List.all_eq_true.mpr hafter)]

/-- What trimming takes off is blank. -/
theorem exists_trimBy (p : Char → Bool) (s : List Char) :
    ∃ before after, (∀ c ∈ before, p c = true) ∧ (∀ c ∈ after, p c = true) ∧
      s = before ++ (trimBy p s ++ after) := by
  refine ⟨s.takeWhile p, ((s.dropWhile p).reverse.takeWhile p).reverse,
    fun c hc => List.mem_takeWhile_imp hc,
    fun c hc => List.mem_takeWhile_imp (List.mem_reverse.mp hc), ?_⟩
  rw [trimBy, dropEndBy, ← List.reverse_append, List.takeWhile_append_dropWhile,
    List.reverse_reverse, List.takeWhile_append_dropWhile]

/-- If no blanks are kept, trimming first makes no difference. -/
theorem filter_trimBy {q : Char → Bool} {s : List Char} (h : ∀ c ∈ s.filter q, p c = false) :
    (trimBy p s).filter q = s.filter q := by
  obtain ⟨before, after, hbefore, hafter, hs⟩ := exists_trimBy p s
  have hnone : ∀ t : List Char, t ⊆ s → (∀ c ∈ t, p c = true) → t.filter q = [] := by
    intro t hsub ht
    rw [List.filter_eq_nil_iff]
    intro c hc hq
    have hkept := h c (List.mem_filter.mpr ⟨hsub hc, hq⟩)
    rw [ht c hc] at hkept
    contradiction
  have hfront := hnone before (by rw [hs]; simp) hbefore
  have hback := hnone after (by rw [hs]; simp) hafter
  rw [congrArg (List.filter q) hs, List.filter_append, List.filter_append, hfront, hback,
    List.nil_append, List.append_nil]

/-- A text without blanks stays. -/
theorem trimBy_of_not_blank {s : List Char} (h : ∀ c ∈ s, p c = false) : trimBy p s = s := by
  have hkept := filter_trimBy (q := fun _ => true) (by simpa using h)
  simpa using hkept

end HtmlQuery.Text
