import HtmlQuery.Proofs.Query.Bytes
import HtmlQuery.Proofs.Query.Typing
import HtmlQuery.Proofs.Text.Occurrence

/-!
# Cutting texts by bytes

A text can be searched in by its bytes.  `findByte?` gives the first byte from which on the bytes of
another text stand, and `sliceBefore?` and `sliceAfter?` cut at this byte and behind the occurrence.
A cut through a character has no result.

No cut goes through a character.  The first byte of a text that is not empty begins a character, and
what begins a character in one text does so in every other one.  So the bytes of a text stand in
those of another one only where its characters do (`exists_append_of_bytesOf`).  An empty text is
different: its bytes, being none, stand inside of every character as well, but they stand at the
front first.  The first occurrence is therefore the same by bytes and by characters
(`FirstCut.bytes`).
-/

namespace HtmlQuery

/-! ## The search for bytes -/

section Search

variable (text needle : String)

/-- The byte at which a text occurs first. -/
def findByte? : Option Nat :=
  ((bytesOf text).dropInfix? (bytesOf needle)).map fun cut => cut.1.length

/-- What stands before the first occurrence, cut out between bytes, or nothing if there is none. -/
def sliceBefore? : Option String :=
  match findByte? text needle with
  | some i => slice? text 0 i
  | none => some ""

/-- What stands after the first occurrence, cut out between bytes, or nothing if there is none. -/
def sliceAfter? : Option String :=
  match findByte? text needle with
  | some i => slice? text (i + needle.utf8ByteSize) text.utf8ByteSize
  | none => some ""

end Search

/-! ## Bytes stand where characters stand -/

section Places

variable {text needle : String} {before behind : List UInt8}

/-- Where the bytes of a text stand that is not empty, a character begins, and where they end a
character ends. -/
theorem isValid_of_bytesOf (hne : needle ≠ "")
    (h : before ++ bytesOf needle ++ behind = bytesOf text) :
    (⟨before.length⟩ : String.Pos.Raw).IsValid text ∧
      (⟨before.length + needle.utf8ByteSize⟩ : String.Pos.Raw).IsValid text := by
  have hsize : before.length + needle.utf8ByteSize ≤ text.utf8ByteSize := by
    rw [← length_bytesOf, ← length_bytesOf, ← h, List.length_append, List.length_append]
    omega
  have hextract : text.toByteArray.extract before.length (before.length + needle.utf8ByteSize) =
      needle.toByteArray := by
    refine ByteArray.ext (Array.toList_inj.mp ?_)
    rw [ByteArray.data_extract, Array.toList_extract]
    show ((bytesOf text).drop before.length).take
      (before.length + needle.utf8ByteSize - before.length) = bytesOf needle
    rw [← h, List.append_assoc, List.drop_left, Nat.add_sub_cancel_left, ← length_bytesOf,
      List.take_left]
  -- What is cut out is a text, so it is cut between characters or empty.
  have hvalid := needle.isValidUTF8
  rw [← hextract, String.Pos.Raw.isValidUTF8_extract_iff ⟨before.length⟩
    ⟨before.length + needle.utf8ByteSize⟩ (Nat.le_add_right _ _) hsize] at hvalid
  refine hvalid.resolve_left fun hsame => hne ?_
  rw [String.Pos.Raw.ext_iff] at hsame
  rw [← String.utf8ByteSize_eq_zero_iff]
  exact Nat.left_eq_add.mp hsame

/-- The bytes of a text that is not empty stand only where the text itself does. -/
theorem exists_append_of_bytesOf (hne : needle ≠ "")
    (h : before ++ bytesOf needle ++ behind = bytesOf text) :
    ∃ front back, front ++ needle ++ back = text ∧ bytesOf front = before := by
  obtain ⟨hstart, hstop⟩ := isValid_of_bytesOf hne h
  obtain ⟨front, rest, hfront, hlength⟩ := String.Pos.Raw.isValid_iff_exists_append.mp hstart
  obtain ⟨both, back, hboth, hlength'⟩ := String.Pos.Raw.isValid_iff_exists_append.mp hstop
  have hbefore : before = bytesOf front := by
    have hsize : before.length = (bytesOf front).length := by
      rw [length_bytesOf]
      exact congrArg String.Pos.Raw.byteIdx hlength
    rw [hfront, bytesOf_append, List.append_assoc] at h
    exact List.append_inj_left h hsize
  have hneedle : before ++ bytesOf needle = bytesOf both := by
    have hsize : (before ++ bytesOf needle).length = (bytesOf both).length := by
      rw [List.length_append, length_bytesOf, length_bytesOf]
      exact congrArg String.Pos.Raw.byteIdx hlength'
    rw [hboth, bytesOf_append] at h
    exact List.append_inj_left h hsize
  rw [hbefore, ← bytesOf_append] at hneedle
  exact ⟨front, back, by rw [bytesOf_inj hneedle, hboth], hbefore.symm⟩

/-- Where the bytes of a text stand, the text occurs there or before. -/
theorem exists_append_le_of_bytesOf (h : before ++ bytesOf needle ++ behind = bytesOf text) :
    ∃ front back, front ++ needle ++ back = text ∧ front.utf8ByteSize ≤ before.length := by
  by_cases hne : needle = ""
  · exact ⟨"", text, by rw [hne, String.empty_append, String.empty_append], Nat.zero_le _⟩
  · obtain ⟨front, back, htext, hfront⟩ := exists_append_of_bytesOf hne h
    exact ⟨front, back, htext, by rw [← hfront, length_bytesOf]⟩

end Places

/-! ## The first occurrence by bytes -/

section Cuts

variable {text needle front back : String}

/-- The first occurrence of a text is the first one of its bytes. -/
theorem Text.FirstCut.bytes
    (h : Text.FirstCut text.toList needle.toList front.toList back.toList) :
    Text.FirstCut (bytesOf text) (bytesOf needle) (bytesOf front) (bytesOf back) where
  append_eq := by
    rw [← bytesOf_append, ← bytesOf_append, Text.append_eq_iff.mpr h.append_eq]
  least before behind hbytes := by
    obtain ⟨front', back', htext, hle⟩ := exists_append_le_of_bytesOf hbytes
    obtain ⟨more, hmore⟩ := h.isPrefix (Text.append_eq_iff.mp htext)
    refine Nat.le_trans ?_ hle
    rw [length_bytesOf, ← byteLength_toList front, ← byteLength_toList front', ← hmore,
      byteLength_append]
    exact Nat.le_add_right _ _

/-- A text occurs exactly if its bytes do. -/
theorem contains_iff_bytesOf :
    Text.contains text needle = true ↔ bytesOf needle <:+: bytesOf text := by
  constructor
  · intro h
    exact (Text.firstCut_of_contains h).bytes.isInfix
  · rintro ⟨before, behind, hbytes⟩
    obtain ⟨front, back, htext, -⟩ := exists_append_le_of_bytesOf hbytes
    exact Text.contains_of_append_eq htext

theorem findByte?_of_contains (h : Text.contains text needle = true) :
    findByte? text needle = some (Text.before text needle).utf8ByteSize := by
  have hcut := (Text.firstCut_of_contains h).bytes
  rw [findByte?, Text.dropInfix?_eq_some_iff.mpr hcut, Option.map_some, length_bytesOf]

theorem findByte?_of_not_contains (h : Text.contains text needle = false) :
    findByte? text needle = none := by
  have hbytes : ¬ bytesOf needle <:+: bytesOf text := by
    rw [← contains_iff_bytesOf, h]
    exact Bool.false_ne_true
  rw [findByte?, Text.dropInfix?_eq_none_iff.mpr hbytes, Option.map_none]

theorem isSome_findByte? (text needle : String) :
    (findByte? text needle).isSome = Text.contains text needle := by
  cases h : Text.contains text needle with
  | true => rw [findByte?_of_contains h, Option.isSome_some]
  | false => rw [findByte?_of_not_contains h, Option.isSome_none]

theorem sliceBefore?_eq (text needle : String) :
    sliceBefore? text needle = some (Text.before text needle) := by
  cases h : Text.contains text needle with
  | true =>
    have hcut := (Text.firstCut_of_contains h).append_eq
    have hslice := @slice?_eq text [] (needle.toList ++ (Text.after text needle).toList)
      (Text.before text needle).toList (by rw [← hcut, List.append_assoc]; rfl)
    rw [sliceBefore?, findByte?_of_contains h]
    rwa [List.nil_append, byteLength_toList, String.ofList_toList] at hslice
  | false =>
    rw [sliceBefore?, findByte?_of_not_contains h, (Text.split_of_not_contains h).1]

theorem sliceAfter?_eq (text needle : String) :
    sliceAfter? text needle = some (Text.after text needle) := by
  cases h : Text.contains text needle with
  | true =>
    have hcut := (Text.firstCut_of_contains h).append_eq
    have hslice := @slice?_eq text ((Text.before text needle).toList ++ needle.toList) []
      (Text.after text needle).toList (by rw [hcut, List.append_nil])
    rw [sliceAfter?, findByte?_of_contains h]
    rwa [hcut, byteLength_append, byteLength_toList, byteLength_toList, byteLength_toList,
      String.ofList_toList] at hslice
  | false =>
    rw [sliceAfter?, findByte?_of_not_contains h, (Text.split_of_not_contains h).2]

/-- The first occurrence begins and ends between characters. -/
theorem isValid_of_findByte? {i : Nat} (h : findByte? text needle = some i) :
    (⟨i⟩ : String.Pos.Raw).IsValid text ∧
      (⟨i + needle.utf8ByteSize⟩ : String.Pos.Raw).IsValid text := by
  have hcontains : Text.contains text needle = true := by
    rw [← isSome_findByte?, h, Option.isSome_some]
  have hcut := (Text.firstCut_of_contains hcontains).append_eq.symm
  rw [findByte?_of_contains hcontains] at h
  obtain rfl := Option.some.inj h
  rw [← byteLength_toList, ← byteLength_toList, ← byteLength_append]
  exact ⟨isValid_byteLength (hcut.trans (List.append_assoc _ _ _)), isValid_byteLength hcut⟩

/-- The bytes of an empty text stand inside of a character too, but not first. -/
example : [0xC3] ++ bytesOf "" ++ [0xA9] = bytesOf "é" ∧ findByte? "é" "" = some 0 := by
  decide +kernel

end Cuts

/-! ## The functions of expressions -/

/-- `contains` says whether a text occurs, and `substring-before` and `substring-after` split at its
first occurrence.  Where it occurs, the two sides with the text between them are the whole, and no
occurrence begins before the end of the first side, whether characters or bytes are counted.  Where
it does not occur, both sides are empty.  So the three put together are the whole exactly if the
text occurs.  A search for bytes finds the same, and it only ever cuts between characters. -/
theorem split_at_first_occurrence {top : Node} {focus : Focus} {a b : Expr} {v w : Value}
    (ha : a.eval top focus = .ok v) (hb : b.eval top focus = .ok w) :
    let s := v.toText
    let t := w.toText
    ∃ (found : Bool) (front back : String),
      (Expr.call .contains [a, b]).eval top focus = .ok (.boolean found) ∧
      (Expr.call .substringBefore [a, b]).eval top focus = .ok (.string front) ∧
      (Expr.call .substringAfter [a, b]).eval top focus = .ok (.string back) ∧
      (found = true → front ++ t ++ back = s ∧
        (∀ front' back', front' ++ t ++ back' = s → front.length ≤ front'.length) ∧
        ∀ before behind, before ++ bytesOf t ++ behind = bytesOf s →
          front.utf8ByteSize ≤ before.length) ∧
      (found = false → front = "" ∧ back = "" ∧ ∀ front' back', front' ++ t ++ back' ≠ s) ∧
      (∃ whole, (Expr.call .concat [.call .substringBefore [a, b], b,
          .call .substringAfter [a, b]]).eval top focus = .ok (.string whole) ∧
        (whole = s ↔ found = true)) ∧
      (findByte? s t).isSome = found ∧
      sliceBefore? s t = some front ∧ sliceAfter? s t = some back ∧
      ∀ i, findByte? s t = some i → (⟨i⟩ : String.Pos.Raw).IsValid s ∧
        (⟨i + t.utf8ByteSize⟩ : String.Pos.Raw).IsValid s := by
  intro s t
  have hpair : ∀ function : Function, (Expr.call function [a, b]).eval top focus =
      function.apply focus [v, w] := fun _ => Expr.eval_call (.cons ha (.cons hb .nil))
  have hbefore := hpair .substringBefore
  have hafter := hpair .substringAfter
  refine ⟨Text.contains s t, Text.before s t, Text.after s t, hpair .contains, hbefore, hafter,
    fun hfound => ⟨Text.before_append_after_iff.mpr hfound, fun _ _ => Text.length_before_le, ?_⟩,
    fun hmissing => ?_, ⟨Text.before s t ++ t ++ Text.after s t, ?_, Text.before_append_after_iff⟩,
    isSome_findByte? s t, sliceBefore?_eq s t, sliceAfter?_eq s t, fun _ => isValid_of_findByte?⟩
  · intro before behind hbytes
    rw [← length_bytesOf]
    exact (Text.firstCut_of_contains hfound).bytes.least before behind hbytes
  · obtain ⟨hfront, hback⟩ := Text.split_of_not_contains hmissing
    refine ⟨hfront, hback, fun front' back' h => ?_⟩
    rw [Text.contains_of_append_eq h] at hmissing
    cases hmissing
  · rw [Expr.eval_call (.cons hbefore (.cons hb (.cons hafter .nil)))]
    show Except.ok (Value.string (String.join [Text.before s t, t, Text.after s t])) = _
    rw [String.join_cons, String.join_cons, String.join_cons, String.join_nil, String.append_empty,
      String.append_assoc]

/-- Two occurrences that overlap, behind a character of three bytes. -/
theorem split_at_first_occurrence_overlap :
    let focus : Focus := ⟨smallPage, 1, 1⟩
    let a := Expr.literal "日éaéaé"
    let b := Expr.literal "éaé"
    a.eval smallPage focus = .ok (.string "日éaéaé") ∧
      b.eval smallPage focus = .ok (.string "éaé") ∧
      (Expr.call .contains [a, b]).eval smallPage focus = .ok (.boolean true) ∧
      (Expr.call .substringBefore [a, b]).eval smallPage focus = .ok (.string "日") ∧
      (Expr.call .substringAfter [a, b]).eval smallPage focus = .ok (.string "aé") ∧
      (∀ front back, front ++ "éaé" ++ back = "日éaéaé" → 1 ≤ front.length) ∧
      findByte? "日éaéaé" "éaé" = some 3 ∧
      (⟨3⟩ : String.Pos.Raw).IsValid "日éaéaé" ∧ (⟨8⟩ : String.Pos.Raw).IsValid "日éaéaé" ∧
      sliceBefore? "日éaéaé" "éaé" = some "日" ∧ sliceAfter? "日éaéaé" "éaé" = some "aé" := by
  intro focus a b
  have hcontains : (Expr.call .contains [a, b]).eval smallPage focus = .ok (.boolean true) := by
    cbv
  have hbefore : (Expr.call .substringBefore [a, b]).eval smallPage focus = .ok (.string "日") := by
    cbv
  have hafter : (Expr.call .substringAfter [a, b]).eval smallPage focus = .ok (.string "aé") := by
    cbv
  have hbyte : findByte? "日éaéaé" "éaé" = some 3 := by decide +kernel
  obtain ⟨found, front, back, hfound, hfront, hback, hcut, -, -, -, hslice, hslice', hvalid⟩ :=
    @split_at_first_occurrence smallPage focus a b _ _ rfl rfl
  cases hcontains.symm.trans hfound
  cases hbefore.symm.trans hfront
  cases hafter.symm.trans hback
  obtain ⟨hstart, hstop⟩ := hvalid 3 hbyte
  exact ⟨rfl, rfl, hcontains, hbefore, hafter, (hcut rfl).2.1, hbyte, hstart, hstop, hslice,
    hslice'⟩

end HtmlQuery
