import HtmlQuery.Encoding.Declaration
import HtmlQuery.Proofs.Text.Blank
import HtmlQuery.Proofs.Text.Pattern

/-!
# The encoding that a page declares

A `meta` tag that gives a content type with a `charset` is a `meta` tag with a `charset`: up to the
value everything stands inside the tag (`charset_of_contentType`).  So the second search finds
nothing that the first one does not find, save for a value that begins with a semicolon, and no
encoding has such a label (`ofLabel?_semicolon`).
-/

namespace HtmlQuery.Encoding

open Text

/-! ## One pattern inside the other -/

/-- What stands between the front of the tag and the `charset` in a content type. -/
def contentPieces : List Piece :=
  word "http-equiv" ++ equalsSign ++ [.optional isQuote] ++ word "content-type" ++
    [.optional isQuote] ++ someInsideTag ++ word "content" ++ equalsSign ++
    [.optional isQuote, .many fun c => !(isQuote c || c == '>'), .one (· == ';'), .many isBlank]

theorem contentTypePattern_pieces :
    contentTypePattern.pieces =
      word "<meta" ++ (someInsideTag ++ (contentPieces ++ (word "charset" ++ equalsSign))) := by
  rfl

theorem charsetPattern_pieces :
    charsetPattern.pieces =
      word "<meta" ++
        (someInsideTag ++ ((word "charset" ++ equalsSign) ++ [.optional isQuote])) := by
  rfl

theorem admits_contentPieces : ∀ piece ∈ contentPieces, piece.admits '>' = false := by
  decide

theorem take_someInsideTag_iff {front : List Char} :
    Take someInsideTag front ↔ front ≠ [] ∧ '>' ∉ front := by
  constructor
  · intro h
    have hclosed : ∀ piece ∈ someInsideTag, piece.admits '>' = false := by decide
    refine ⟨?_, h.not_mem hclosed⟩
    cases h with
    | cons hone _ =>
      cases hone with
      | one => simp
  · rintro ⟨hne, hclosed⟩
    obtain ⟨c, cs, rfl⟩ := List.exists_cons_of_ne_nil hne
    have hinside : ∀ d ∈ c :: cs, insideTag d = true :=
      fun d hd => bne_iff_ne.mpr (ne_of_mem_of_not_mem hd hclosed)
    rw [List.forall_mem_cons] at hinside
    have hcs : Take [.many insideTag] (cs ++ []) := .cons (.many hinside.2) .nil
    rw [List.append_nil] at hcs
    exact .cons (.one hinside.1) hcs

/-- What the pieces of a content type stand for, those of a `charset` stand for as well. -/
theorem charset_of_contentType {front : List Char} (h : Take contentTypePattern.pieces front) :
    Take charsetPattern.pieces front := by
  rw [contentTypePattern_pieces] at h
  obtain ⟨tag, _, rfl, htag, h⟩ := h.exists_append
  obtain ⟨inside, _, rfl, hinside, h⟩ := h.exists_append
  obtain ⟨content, charset, rfl, hcontent, hcharset⟩ := h.exists_append
  have hall : Take someInsideTag (inside ++ content) := by
    rw [take_someInsideTag_iff] at hinside ⊢
    have hclosed := hcontent.not_mem admits_contentPieces
    simp [hinside, hclosed]
  have hquote : Take [.optional isQuote] ([] ++ []) := .cons .nothing .nil
  have hfront := htag.append (hall.append (hcharset.append hquote))
  rwa [List.append_nil, List.append_nil, List.append_assoc inside,
    ← charsetPattern_pieces] at hfront

/-- Where the first pattern matches nowhere, the second one captures only what begins with a
semicolon. -/
theorem head?_of_contentType {text label : List Char} (hnone : charsetPattern.find? text = none)
    (h : contentTypePattern.Matches text label) : label.head? = some ';' := by
  obtain ⟨⟨before, front, behind, rfl, hfront⟩, hne, hlabel⟩ := h
  obtain ⟨c, cs, rfl⟩ := List.exists_cons_of_ne_nil hne
  by_contra hc
  have hcaptured : charsetPattern.captured c = true := by
    have hc' := hlabel c List.mem_cons_self
    rw [List.head?_cons, Option.some.injEq] at hc
    simpa [charsetPattern, contentTypePattern, hc] using hc'
  refine Pattern.find?_eq_none_iff.mp hnone [c] ⟨⟨before, front, cs ++ behind, rfl, ?_⟩, ?_, ?_⟩
  · exact charset_of_contentType hfront
  · simp
  · simpa using hcaptured

/-! ## Labels -/

/-- What begins with a semicolon begins with its byte. -/
theorem head?_bytes_semicolon (cs : List Char) :
    (String.ofList (';' :: cs)).toByteArray.data.toList.head? = some 0x3B := by
  have hbytes : (String.ofList (';' :: cs)).toByteArray.data.toList =
      (';' :: cs).flatMap String.utf8EncodeChar := List.toList_data_toByteArray
  rw [hbytes]
  rfl

/-- No label begins with a semicolon. -/
theorem ofLabel?_semicolon (cs : List Char) : ofLabel? (String.ofList (';' :: cs)) = none := by
  have hlabels : ∀ e ∈ all, ∀ l ∈ e.labels, l.toByteArray.data.toList.head? ≠ some 0x3B := by
    decide +kernel
  have htrim : trimBy isAsciiBlank ([] ++ ([';'] ++ cs)) = [';'] ++ dropEndBy isAsciiBlank cs :=
    trimBy_append rfl (by simp [isAsciiBlank, isSpace]) (by simp) cs
  rw [List.nil_append, List.singleton_append, List.singleton_append] at htrim
  rw [ofLabel?, String.toList_ofList, htrim, List.find?_eq_none]
  intro e he hcontains
  have hmem := List.contains_iff_mem.mp hcontains
  exact hlabels e he _ hmem (head?_bytes_semicolon _)

/-! ## Detection -/

/-- Looking for a content type never changes the answer.  Without a byte-order mark the encoding is
the one whose label the first pattern captures in the beginning of the page, or UTF-8 if it captures
none or an unknown one: where the first pattern matches nowhere, all that the second one can capture
begins with a semicolon and is no label. -/
theorem detect_by_charset {bytes : List UInt8} (h : byteOrderMark? bytes = none) :
    detect bytes =
      (((charsetPattern.find? (lossyUtf8 (bytes.take searchedBytes)).toList).map
        String.ofList).bind ofLabel?).getD .utf8 ∧
    ∀ text label, charsetPattern.find? text = none → contentTypePattern.Matches text label →
      label.head? = some ';' ∧ ofLabel? (String.ofList label) = none := by
  have hlabel : ∀ text label, charsetPattern.find? text = none →
      contentTypePattern.Matches text label →
        label.head? = some ';' ∧ ofLabel? (String.ofList label) = none := by
    intro text label hnone hmatches
    have hhead := head?_of_contentType hnone hmatches
    obtain ⟨cs, rfl⟩ := List.head?_eq_some_iff.mp hhead
    exact ⟨hhead, ofLabel?_semicolon cs⟩
  refine ⟨?_, hlabel⟩
  simp only [detect, h]
  generalize (lossyUtf8 (bytes.take searchedBytes)).toList = start
  rw [declaredLabel?]
  cases hfirst : charsetPattern.find? start with
  | some label => rfl
  | none =>
    cases hsecond : contentTypePattern.find? start with
    | none => rfl
    | some label =>
      have hunknown := (hlabel start label hfirst (Pattern.matches_of_find? hsecond)).2
      simp [hunknown]

/-- A page whose content type has a semicolon behind `charset=`. -/
def semicolonPage : String :=
  "<meta http-equiv=content-type content=;charset=;l2>"

/-- The bytes of that page. -/
def semicolonBytes : List UInt8 :=
  semicolonPage.toList.map fun c => c.toNat.toUInt8

/-- The second pattern captures `;l2`, and the page is in UTF-8 all the same. -/
theorem detect_by_charset_semicolonPage :
    byteOrderMark? semicolonBytes = none ∧ charsetPattern.find? semicolonPage.toList = none ∧
      contentTypePattern.Matches semicolonPage.toList [';', 'l', '2'] ∧
      ofLabel? ";l2" = none ∧ detect semicolonBytes = .utf8 := by
  have hmark : byteOrderMark? semicolonBytes = none := by decide +kernel
  have hnone : charsetPattern.find? semicolonPage.toList = none := by decide +kernel
  have hmatches : contentTypePattern.Matches semicolonPage.toList [';', 'l', '2'] :=
    Pattern.matches_of_find? (by decide +kernel)
  obtain ⟨hdetect, hlabel⟩ := detect_by_charset hmark
  have hread : lossyUtf8 (semicolonBytes.take searchedBytes) = semicolonPage := by
    decide +kernel
  rw [hread, hnone] at hdetect
  exact ⟨hmark, hnone, hmatches, (hlabel _ _ hnone hmatches).2, hdetect⟩

end HtmlQuery.Encoding
