import HtmlQuery.Document
import HtmlQuery.Proofs.Encoding.Pairs

/-!
# Strict and lenient reading

Strict reading gives a text only if all bytes stand for characters, and lenient reading gives one
always.  Where there is nothing to replace they read the same characters, in one and the same
encoding (`readLenient_of_readAll?`).  But they choose the encoding in two ways.  Strict reading
keeps to the one it is asked for, lenient reading follows any byte-order mark.

So a strict text is the lenient text if there is no mark of another encoding
(`strict_text_kept_iff`).  A foreign mark makes the texts different, since the lenient one has too
few characters or units for the bytes that the strict one was read from.  Of the readers for the
encodings of East Asia that takes what `FollowsStandard` says.
-/

namespace HtmlQuery.Encoding

variable {e marked : Encoding} {bytes rest : List UInt8} {text : String}

/-- Whether bytes begin with the byte-order mark of another encoding. -/
def hasForeignMark (e : Encoding) (bytes : List UInt8) : Bool :=
  (byteOrderMark? bytes).any (·.1 != e)

/-- The encoding that bytes declare is that of their mark. -/
theorem hasForeignMark_detect (bytes : List UInt8) :
    (detect bytes).hasForeignMark bytes = false := by
  rw [hasForeignMark, detect]
  cases hb : byteOrderMark? bytes with
  | none => rfl
  | some mark => simp

/-! ## Marks -/

theorem length_rest (h : byteOrderMark? bytes = some (marked, rest)) :
    rest.length + 2 ≤ bytes.length := by
  rcases byteOrderMark?_eq_some h with ⟨-, rfl⟩ | ⟨-, rfl⟩ | ⟨-, rfl⟩ <;> simp

/-- No byte-order mark of UTF-16 is text in UTF-8. -/
theorem readUtf8_mark {b : UInt8} (hb : b = 0xFE ∨ b = 0xFF) (text : List Char) :
    readUtf8 (b :: bytes) ≠ text.map some := by
  have hlead : lead b = .malformed := by
    rcases hb with rfl | rfl <;> rfl
  intro h
  rw [readUtf8, readUtf8From, hlead] at h
  cases text <;> cases h

theorem unit_lt (a b : UInt8) : a.toNat * 256 + b.toNat < 0x10000 := by
  have ha := a.toNat_lt
  have hb := b.toNat_lt
  omega

/-- The encodings without a table of letters. -/
theorem cases_of_upperHalf? (h : e.upperHalf? = none) :
    e = .utf8 ∨ e = .utf16be ∨ e = .utf16le ∨ e = .userDefined ∨ e = .replacement ∨
      e ∈ multiByte := by
  cases e <;> first | decide | cases h

/-! ## Reading in one encoding -/

theorem mapM_id_eq_some_iff {α : Type} {entries : List (Option α)} {values : List α} :
    entries.mapM id = some values ↔ entries = values.map some := by
  induction entries generalizing values with
  | nil => cases values <;> simp
  | cons entry entries ih =>
    cases values <;> simp [List.mapM_cons, Option.bind_eq_some_iff, ih]

/-- A table of letters in two parts, read by the characters in them. -/
theorem readTable_of_eq {upper : String} {front back : List Char}
    (h : upper = String.ofList front ++ String.ofList back) (bytes : List UInt8) :
    readTable upper bytes = bytes.map (ofTable (front ++ back).toArray) := by
  rw [h, readTable, String.toList_append, String.toList_ofList, String.toList_ofList]

section

variable [MultiByteReader]

theorem readAll?_eq_some_iff :
    e.readAll? bytes = some text ↔ e.read bytes = text.toList.map some := by
  simp only [readAll?, Option.map_eq_some_iff, mapM_id_eq_some_iff]
  constructor
  · rintro ⟨chars, h, rfl⟩
    rw [h, String.toList_ofList]
  · exact fun h => ⟨text.toList, h, String.ofList_toList⟩

theorem readLenient_eq_iff : e.readLenient bytes = text ↔ filled (e.read bytes) = text.toList := by
  rw [readLenient, ← String.toList_inj, String.toList_ofList, filled]

/-- Where all bytes stand for characters there is nothing to replace. -/
theorem readLenient_of_readAll? (h : e.readAll? bytes = some text) :
    e.readLenient bytes = text := by
  rw [readLenient_eq_iff, readAll?_eq_some_iff.mp h, filled_map_some]

/-! ## How much is read -/

/-- All but the forms of Unicode, the replacement encoding and the encodings of East Asia have a
character for every byte. -/
theorem length_read_cases (e : Encoding) (bytes : List UInt8) :
    e = .utf8 ∨ e = .utf16be ∨ e = .utf16le ∨ e = .replacement ∨ e ∈ multiByte ∨
      (e.read bytes).length = bytes.length := by
  unfold read
  split
  · simp
  · simp
  · simp
  · simp [readUserDefined]
  · simp
  · next h₁ h₂ h₃ h₄ h₅ =>
    split
    · simp [readTable]
    · next htable =>
      have he := cases_of_upperHalf? htable
      tauto

/-- Among the forms of Unicode there are no more characters than bytes. -/
theorem length_read_le (h : byteOrderMark? bytes = some (marked, rest)) :
    (marked.read rest).length ≤ rest.length := by
  rcases byteOrderMark?_eq_some h with ⟨rfl, -⟩ | ⟨rfl, -⟩ | ⟨rfl, -⟩
  · exact length_readUtf8_le rest
  · exact length_readUtf16From_le none rest
  · exact length_readUtf16From_le none rest

/-! ## The mark of another encoding -/

/-- A text that begins with the byte-order mark of another encoding is not what follows the mark in
that encoding. -/
theorem filled_ne_of_foreign (hstandard : e.FollowsStandard)
    (hmark : byteOrderMark? bytes = some (marked, rest)) (hne : marked ≠ e)
    {text : List Char} (h : e.read bytes = text.map some) :
    filled (marked.read rest) ≠ text := by
  have hlength := length_rest hmark
  have hthree : ∀ b ∈ ([0xEF, 0xBB, 0xBF] : List UInt8), InThree b := by simp [InThree, Continues]
  obtain rfl | rfl | rfl | rfl | he | hbytes := length_read_cases e bytes
  · rcases byteOrderMark?_eq_some hmark with ⟨rfl, -⟩ | ⟨-, rfl⟩ | ⟨-, rfl⟩
    · exact absurd rfl hne
    · exact absurd h (readUtf8_mark (.inl rfl) text)
    · exact absurd h (readUtf8_mark (.inr rfl) text)
  · rcases byteOrderMark?_eq_some hmark with ⟨rfl, rfl⟩ | ⟨rfl, -⟩ | ⟨rfl, -⟩
    · exact readUtf8_rest_ne (takesPairs_utf16 joinsThree_be) writtenIn_three hthree (by simp) h
    · exact absurd rfl hne
    · exact readUtf16_shorter_ne (fun a b => unit_lt b a) h hlength
  · rcases byteOrderMark?_eq_some hmark with ⟨rfl, rfl⟩ | ⟨rfl, -⟩ | ⟨rfl, -⟩
    · exact readUtf8_rest_ne (takesPairs_utf16 joinsThree_le) writtenIn_three hthree (by simp) h
    · exact readUtf16_shorter_ne unit_lt h hlength
    · exact absurd rfl hne
  · have hnone : Encoding.replacement.read bytes = [none] := by
      cases bytes with
      | nil => simp at hlength
      | cons => rfl
    rw [hnone] at h
    cases text <;> cases h
  · exact filled_ne_of_multiByte he hstandard hmark h
  · -- The text has a character for every byte, and there are more bytes than follow the mark.
    rintro rfl
    have hmany : (filled (marked.read rest)).length = bytes.length := by
      rw [← hbytes, h, List.length_map]
    have hfew := length_read_le hmark
    rw [length_filled] at hmany
    omega

/-! ## Strict texts -/

theorem decode_strict_iff :
    e.decode true bytes = .ok text ↔ e.readAll? (e.dropOwnMark bytes) = some text := by
  rw [decode, if_pos rfl, decodeStrict]
  cases e.readAll? (e.dropOwnMark bytes) <;> simp

theorem decode_lenient_iff : e.decode false bytes = .ok text ↔ e.decodeLenient bytes = text := by
  simp [decode]

/-- Without the mark of another encoding both ways of reading read the same bytes in the same
encoding. -/
theorem decode_lenient_of_strict (h : e.decode true bytes = .ok text)
    (hmark : e.hasForeignMark bytes = false) : e.decode false bytes = .ok text := by
  rw [decode_strict_iff, dropOwnMark] at h
  rw [decode_lenient_iff, decodeLenient]
  rw [hasForeignMark] at hmark
  cases hb : byteOrderMark? bytes with
  | none =>
    rw [hb] at h
    exact readLenient_of_readAll? h
  | some mark =>
    obtain ⟨marked, rest⟩ := mark
    obtain rfl : marked = e := by simpa [hb] using hmark
    rw [hb] at h
    exact readLenient_of_readAll? (by simpa using h)

/-- The mark of another encoding makes the two texts different. -/
theorem decode_lenient_ne_of_strict (hstandard : e.FollowsStandard)
    (h : e.decode true bytes = .ok text) (hmark : e.hasForeignMark bytes = true) :
    e.decode false bytes ≠ .ok text := by
  obtain ⟨⟨marked, rest⟩, hb, hne⟩ := (Option.any_eq_true _ _).mp hmark
  have hforeign : marked ≠ e := by simpa using hne
  rw [decode_strict_iff, dropOwnMark, hb, readAll?_eq_some_iff] at h
  simp only [hforeign, ↓reduceIte] at h
  rw [Ne, decode_lenient_iff, decodeLenient, hb]
  exact fun htext => filled_ne_of_foreign hstandard hb hforeign h (readLenient_eq_iff.mp htext)

/-- A document of bytes is one of their text. -/
theorem ofBytes_of_decode {options : LoadOptions} {strict : Bool}
    (he : Document.encodingOf options bytes = .ok e) (h : e.decode strict bytes = .ok text) :
    Document.ofBytes { options with strict } bytes =
      if bytes.isEmpty then .error .emptyInput else Document.ofDecoded e options text := by
  have he' : Document.encodingOf { options with strict } bytes = .ok e := he
  simp only [Document.ofBytes, he', h]
  rfl

/-- Strict reading changes no text but at a foreign mark.  A text that is read strictly is read
leniently as well if the bytes do not begin with the byte-order mark of another encoding, and only
then where the encoding is read as the standard says.  Bytes that say themselves what the encoding
is never begin with such a mark, and a document of bytes that do not is the same both ways, or fails
in the same way. -/
theorem strict_text_kept_iff (h : e.decode true bytes = .ok text) :
    (e.hasForeignMark bytes = false → e.decode false bytes = .ok text) ∧
    (e.FollowsStandard →
      (e.decode false bytes = .ok text ↔ e.hasForeignMark bytes = false)) ∧
    ∀ options : LoadOptions, Document.encodingOf options bytes = .ok e →
      (options.encoding = none → e.hasForeignMark bytes = false) ∧
      (e.hasForeignMark bytes = false →
        Document.ofBytes { options with strict := false } bytes =
          Document.ofBytes { options with strict := true } bytes) := by
  refine ⟨decode_lenient_of_strict h,
    fun hstandard => ⟨fun hkept => ?_, decode_lenient_of_strict h⟩,
    fun options he => ⟨fun hnone => ?_, fun hmark => ?_⟩⟩
  · exact Bool.eq_false_of_not_eq_true fun hmark =>
      decode_lenient_ne_of_strict hstandard h hmark hkept
  · rw [Document.encodingOf, hnone, Except.ok.injEq] at he
    exact he ▸ hasForeignMark_detect bytes
  · rw [ofBytes_of_decode he h, ofBytes_of_decode he (decode_lenient_of_strict h hmark)]

/-! ## Two marked pages -/

theorem decode_strict_windows1252 :
    Encoding.windows1252.decode true [0xEF, 0xBB, 0xBF, 0x41] = .ok "ï»¿A" := by
  rw [decode_strict_iff, readAll?_eq_some_iff]
  simp only [read, upperHalf?, readTable_of_eq rfl]
  decide +kernel

end

/-- A part of GBK and EUC-JP, and ASCII in the other encodings of East Asia. -/
@[reducible] def markReader : MultiByteReader where
  read
    | .gbk => readLetters [((0xEF, 0xBB), '锘'), ((0xBF, 0x41), '緼')]
    | .eucJp => readLetters [((0xEF, 0xBB), '鏤'), ((0xBF, 0xE9), '翠')]
    | _ => readLetters []

/-- Pages in windows-1252, in GBK and in EUC-JP that begin with the mark of UTF-8. -/
theorem strict_text_kept_iff_marked :
    letI := markReader
    (Encoding.windows1252.decode true [0xEF, 0xBB, 0xBF, 0x41] = .ok "ï»¿A" ∧
      (Encoding.windows1252.decode false [0xEF, 0xBB, 0xBF, 0x41] = .ok "ï»¿A" ↔
        Encoding.windows1252.hasForeignMark [0xEF, 0xBB, 0xBF, 0x41] = false)) ∧
    (Encoding.gbk.FollowsStandard ∧
      Encoding.gbk.decode true [0xEF, 0xBB, 0xBF, 0x41] = .ok "锘緼" ∧
      Encoding.gbk.decode false [0xEF, 0xBB, 0xBF, 0x41] ≠ .ok "锘緼") ∧
    (Encoding.eucJp.FollowsStandard ∧
      Encoding.eucJp.decode true [0xEF, 0xBB, 0xBF, 0xE9] = .ok "鏤翠" ∧
      Encoding.eucJp.decode false [0xEF, 0xBB, 0xBF, 0xE9] ≠ .ok "鏤翠") := by
  let := markReader
  have hgbk : Encoding.gbk.FollowsStandard :=
    readsPairs_readLetters (by decide) (by simp [IsLetter])
  have heucJp : Encoding.eucJp.FollowsStandard := readsEucJp_readLetters (by decide) rfl rfl
  have hgbk' : Encoding.gbk.decode true [0xEF, 0xBB, 0xBF, 0x41] = .ok "锘緼" := by
    decide +kernel
  have heucJp' : Encoding.eucJp.decode true [0xEF, 0xBB, 0xBF, 0xE9] = .ok "鏤翠" := by
    decide +kernel
  refine ⟨⟨decode_strict_windows1252, (strict_text_kept_iff decode_strict_windows1252).2.1 trivial⟩,
    ⟨hgbk, hgbk', fun h => ?_⟩, ⟨heucJp, heucJp', fun h => ?_⟩⟩
  · cases ((strict_text_kept_iff hgbk').2.1 hgbk).mp h
  · cases ((strict_text_kept_iff heucJp').2.1 heucJp).mp h

/-- Strict reading gives the mark of UTF-8 as three characters of windows-1252, and lenient reading
drops it. -/
theorem windows1252_mark_dropped :
    letI := markReader
    Encoding.windows1252.decode true [0xEF, 0xBB, 0xBF, 0x41] = .ok "ï»¿A" ∧
      Encoding.windows1252.decode false [0xEF, 0xBB, 0xBF, 0x41] = .ok "A" := by
  let := markReader
  exact ⟨decode_strict_windows1252, by cbv⟩

end HtmlQuery.Encoding
