import HtmlQuery.Text.Pattern
import Mathlib.Data.List.TakeWhile

/-!
# What patterns match

`Piece.Takes` and `Take` say which characters pieces may stand for, and `Pattern.Matches` which runs
a pattern may capture, without regard to what is tried first.  The search finds one of these
(`Pattern.matches_of_find?`), and it finds nothing only if there is none
(`Pattern.find?_eq_none_iff`).

A character that no piece takes is in no front that pieces take (`Take.not_mem`).
-/

namespace HtmlQuery.Text

/-! ## Pieces -/

/-- What a piece may stand for. -/
inductive Piece.Takes : Piece → List Char → Prop where
  | one {p : Char → Bool} {c : Char} (hc : p c = true) : Takes (.one p) [c]
  | optional {p : Char → Bool} {c : Char} (hc : p c = true) : Takes (.optional p) [c]
  | nothing {p : Char → Bool} : Takes (.optional p) []
  | many {p : Char → Bool} {cs : List Char} (h : ∀ c ∈ cs, p c = true) : Takes (.many p) cs

/-- What pieces may stand for, one after the other. -/
inductive Take : List Piece → List Char → Prop where
  | nil : Take [] []
  | cons {piece : Piece} {pieces : List Piece} {front behind : List Char}
      (h : piece.Takes front) (hs : Take pieces behind) : Take (piece :: pieces) (front ++ behind)

/-- A run that a pattern may capture in a text. -/
structure Pattern.Matches (pattern : Pattern) (text run : List Char) : Prop where
  /-- The run stands behind what the pieces take, at any place. -/
  exists_eq : ∃ before front behind, text = before ++ (front ++ (run ++ behind)) ∧
    Take pattern.pieces front
  ne_nil : run ≠ []
  all_captured : ∀ c ∈ run, pattern.captured c = true

section Take

variable {pieces ps qs : List Piece} {front xs ys zs : List Char}

/-- Pieces in a row take what they take one after the other. -/
theorem Take.append (hxs : Take ps xs) (hys : Take qs ys) : Take (ps ++ qs) (xs ++ ys) := by
  induction hxs with
  | nil => exact hys
  | cons h _ ih =>
    rw [List.cons_append, List.append_assoc]
    exact .cons h ih

/-- What pieces in a row take can be cut where the first ones end. -/
theorem Take.exists_append (h : Take (ps ++ qs) zs) :
    ∃ xs ys, zs = xs ++ ys ∧ Take ps xs ∧ Take qs ys := by
  induction ps generalizing zs with
  | nil => exact ⟨[], zs, rfl, .nil, h⟩
  | cons piece ps ih =>
    cases h with
    | @cons _ _ front behind h hs =>
      obtain ⟨xs, ys, rfl, hxs, hys⟩ := ih hs
      exact ⟨front ++ xs, ys, by rw [List.append_assoc], .cons h hxs, hys⟩

/-- The class of a piece. -/
def Piece.admits : Piece → Char → Bool
  | .one p => p
  | .optional p => p
  | .many p => p

/-- A piece takes only characters that it admits. -/
theorem Piece.Takes.admits {piece : Piece} (h : piece.Takes front) :
    ∀ c ∈ front, piece.admits c = true := by
  cases h with
  | one hc => simpa [Piece.admits] using hc
  | optional hc => simpa [Piece.admits] using hc
  | nothing => simp
  | many h => exact h

/-- A character that no piece takes is not among what they take. -/
theorem Take.not_mem (h : Take pieces front) {c : Char}
    (hc : ∀ piece ∈ pieces, piece.admits c = false) : c ∉ front := by
  induction h with
  | nil => simp
  | @cons piece pieces front behind h _ ih =>
    rw [List.forall_mem_cons] at hc
    intro hmem
    rcases List.mem_append.mp hmem with hmem | hmem
    · have hadmits := h.admits c hmem
      rw [hc.1] at hadmits
      cases hadmits
    · exact ih hc.2 hmem

end Take

/-! ## What is found is a match -/

section Found

variable {α : Type} {p : Char → Bool} {next : List Char → Option α} {s : List Char} {a : α}

theorem exists_of_takeMany (h : takeMany p next s = some a) :
    ∃ front behind, s = front ++ behind ∧ (∀ c ∈ front, p c = true) ∧ next behind = some a := by
  induction s with
  | nil => exact ⟨[], [], rfl, by simp, h⟩
  | cons c cs ih =>
    rw [takeMany] at h
    split at h
    next hc =>
      cases hmore : takeMany p next cs with
      | none =>
        rw [hmore, Option.none_or] at h
        exact ⟨[], c :: cs, rfl, by simp, h⟩
      | some b =>
        rw [hmore, Option.some_or] at h
        obtain ⟨front, behind, rfl, hfront, hnext⟩ := ih (hmore.trans h)
        exact ⟨c :: front, behind, rfl, List.forall_mem_cons.mpr ⟨hc, hfront⟩, hnext⟩
    next => exact ⟨[], c :: cs, rfl, by simp, h⟩

/-- What a piece passes on is the text behind something that it takes. -/
theorem Piece.exists_of_take {piece : Piece} (h : piece.take next s = some a) :
    ∃ front behind, s = front ++ behind ∧ piece.Takes front ∧ next behind = some a := by
  cases piece with
  | one p =>
    cases s with
    | nil => cases h
    | cons c cs =>
      simp only [take] at h
      split at h
      next hc => exact ⟨[c], cs, rfl, .one hc, h⟩
      next => cases h
  | optional p =>
    cases s with
    | nil => exact ⟨[], [], rfl, .nothing, h⟩
    | cons c cs =>
      simp only [take] at h
      split at h
      next hc =>
        rcases Option.or_eq_some_iff.mp h with h | ⟨-, h⟩
        · exact ⟨[c], cs, rfl, .optional hc, h⟩
        · exact ⟨[], c :: cs, rfl, .nothing, h⟩
      next => exact ⟨[], c :: cs, rfl, .nothing, h⟩
  | many p =>
    obtain ⟨front, behind, hs, hfront, hnext⟩ := exists_of_takeMany h
    exact ⟨front, behind, hs, .many hfront, hnext⟩

theorem exists_of_captureAfter? {captured : Char → Bool} {pieces : List Piece} {run : List Char}
    (h : captureAfter? captured pieces s = some run) :
    ∃ front behind, s = front ++ (run ++ behind) ∧ Take pieces front ∧ run ≠ [] ∧
      ∀ c ∈ run, captured c = true := by
  induction pieces generalizing s with
  | nil =>
    rw [captureAfter?] at h
    split at h
    next => cases h
    next c cs hrun =>
      obtain rfl := Option.some.inj h
      refine ⟨[], s.dropWhile captured, ?_, .nil, List.cons_ne_nil _ _, fun d hd => ?_⟩
      · rw [← hrun, List.nil_append, List.takeWhile_append_dropWhile]
      · exact List.mem_takeWhile_imp (hrun ▸ hd)
  | cons piece pieces ih =>
    obtain ⟨front, behind, rfl, hfront, hbehind⟩ := Piece.exists_of_take h
    obtain ⟨more, rest, rfl, hmore, hne, hrun⟩ := ih hbehind
    exact ⟨front ++ more, rest, by rw [List.append_assoc], .cons hfront hmore, hne, hrun⟩

theorem Pattern.matches_of_capture? {pattern : Pattern} {text run : List Char}
    (h : pattern.capture? text = some run) : pattern.Matches text run := by
  obtain ⟨front, behind, rfl, hfront, hne, hrun⟩ := exists_of_captureAfter? h
  exact ⟨⟨[], front, behind, rfl, hfront⟩, hne, hrun⟩

/-- What the search finds is a match. -/
theorem Pattern.matches_of_find? {pattern : Pattern} {text run : List Char}
    (h : pattern.find? text = some run) : pattern.Matches text run := by
  induction text with
  | nil => exact matches_of_capture? h
  | cons c cs ih =>
    rcases Option.or_eq_some_iff.mp h with h | ⟨-, h⟩
    · exact matches_of_capture? h
    · obtain ⟨⟨before, front, behind, hcs, hfront⟩, hne, hrun⟩ := ih h
      exact ⟨⟨c :: before, front, behind, by rw [hcs, List.cons_append], hfront⟩, hne, hrun⟩

end Found

/-! ## Where there is a match, one is found -/

section Complete

variable {α : Type} {p : Char → Bool} {next : List Char → Option α} {front behind : List Char}

theorem isSome_takeMany (hfront : ∀ c ∈ front, p c = true) (h : (next behind).isSome) :
    (takeMany p next (front ++ behind)).isSome := by
  induction front with
  | nil =>
    cases behind with
    | nil => exact h
    | cons c cs =>
      rw [List.nil_append, takeMany]
      split
      · rw [Option.isSome_or, h, Bool.or_true]
      · exact h
  | cons c front ih =>
    rw [List.forall_mem_cons] at hfront
    rw [List.cons_append, takeMany, if_pos hfront.1, Option.isSome_or, ih hfront.2, Bool.true_or]

/-- If something is found behind what a piece takes, the piece finds something too, though perhaps
behind another front. -/
theorem Piece.Takes.isSome_take {piece : Piece} (hfront : piece.Takes front)
    (h : (next behind).isSome) : (piece.take next (front ++ behind)).isSome := by
  cases hfront with
  | one hc => simpa [take, hc] using h
  | optional hc => simp [take, hc, h]
  | nothing =>
    cases behind with
    | nil => exact h
    | cons c cs =>
      simp only [List.nil_append, take]
      split
      · rw [Option.isSome_or, h, Bool.or_true]
      · exact h
  | many hfront => exact isSome_takeMany hfront h

/-- The same for a row of pieces with a character to capture behind it. -/
theorem Take.isSome_captureAfter? {captured : Char → Bool} {pieces : List Piece}
    (hfront : Take pieces front) {c : Char} (hc : captured c = true) (behind : List Char) :
    (captureAfter? captured pieces (front ++ c :: behind)).isSome := by
  induction hfront with
  | nil => simp [captureAfter?, hc]
  | cons h _ ih =>
    rw [captureAfter?, List.append_assoc]
    exact h.isSome_take ih

theorem Pattern.isSome_find? {pattern : Pattern} {rest : List Char}
    (h : (pattern.capture? rest).isSome) (before : List Char) :
    (pattern.find? (before ++ rest)).isSome := by
  induction before with
  | nil =>
    cases rest with
    | nil => exact h
    | cons c cs => rw [List.nil_append, find?, Option.isSome_or, h, Bool.true_or]
  | cons c before ih => rw [List.cons_append, find?, Option.isSome_or, ih, Bool.or_true]

/-- Nothing is found exactly if there is no match, in whatever way the pieces are taken. -/
theorem Pattern.find?_eq_none_iff {pattern : Pattern} {text : List Char} :
    pattern.find? text = none ↔ ∀ run, ¬ pattern.Matches text run := by
  constructor
  · rintro hnone run ⟨⟨before, front, behind, rfl, hfront⟩, hne, hrun⟩
    obtain ⟨c, cs, rfl⟩ := List.exists_cons_of_ne_nil hne
    have hfound := isSome_find?
      (hfront.isSome_captureAfter? (hrun c List.mem_cons_self) (cs ++ behind)) before
    rw [← List.cons_append, hnone] at hfound
    cases hfound
  · intro hnone
    cases hfind : pattern.find? text with
    | none => rfl
    | some run => exact absurd (matches_of_find? hfind) (hnone run)

end Complete

end HtmlQuery.Text
