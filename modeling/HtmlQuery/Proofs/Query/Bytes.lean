import HtmlQuery.Proofs.Text.Blank
import HtmlQuery.Query.Lexer
import Mathlib

/-!
# Texts as bytes

A text is stored as bytes, one for a character of ASCII and more for any other.  What reads it byte
by byte compares single bytes (`byte?`), jumps over runs of them (`skipBytes`), and cuts out what
stands between two of them (`slice?`).  A cut through a character has no result.

Such a reader can be told from one that goes by characters only at a place inside a character.  At
any other place it sees the same, because the bytes of other characters are none of ASCII: the first
byte of a character shows what the character is to every function that does not tell the characters
beyond ASCII apart (`Coarse`), and a run of the bytes of such a class is a run of its characters.
-/

namespace HtmlQuery

/-! ## How many bytes -/

/-- The bytes that a text takes, by the length of the text that its characters make. -/
theorem byteLength_eq (cs : List Char) : byteLength cs = (String.ofList cs).utf8ByteSize := by
  have hfold : ∀ n, cs.foldl (fun n c => n + c.utf8Size) n = n + String.utf8Len cs := by
    induction cs with
    | nil => exact fun n => rfl
    | cons c cs ih =>
      intro n
      rw [List.foldl_cons, ih, String.utf8Len_cons]
      omega
  rw [byteLength, hfold, Nat.zero_add, String.utf8ByteSize_ofList]

theorem byteLength_nil : byteLength [] = 0 :=
  rfl

theorem byteLength_append (cs ds : List Char) :
    byteLength (cs ++ ds) = byteLength cs + byteLength ds := by
  rw [byteLength_eq, byteLength_eq, byteLength_eq, String.ofList_append, String.utf8ByteSize_append]

theorem byteLength_cons (c : Char) (cs : List Char) :
    byteLength (c :: cs) = c.utf8Size + byteLength cs := by
  rw [byteLength_eq, byteLength_eq, String.utf8ByteSize_ofList, String.utf8ByteSize_ofList,
    String.utf8Len_cons, Nat.add_comm]

/-- No character takes no byte. -/
theorem byteLength_pos {cs : List Char} (h : cs ≠ []) : 0 < byteLength cs := by
  obtain ⟨c, ds, rfl⟩ := List.exists_cons_of_ne_nil h
  have := c.utf8Size_pos
  rw [byteLength_cons]
  omega

theorem byteLength_concat (cs : List Char) (c : Char) :
    byteLength (cs ++ [c]) = byteLength cs + c.utf8Size := by
  rw [byteLength_append, byteLength_cons, byteLength_nil, Nat.add_zero]

theorem utf8Size_of_lt {c : Char} (h : c.toNat < 0x80) : c.utf8Size = 1 := by
  rw [Char.utf8Size_eq_one_iff, UInt32.le_iff_toNat_le]
  exact Nat.le_of_lt_succ h

/-- A character of ASCII has one byte. -/
theorem byteLength_concat_of_lt {c : Char} (hc : c.toNat < 0x80) (cs : List Char) :
    byteLength (cs ++ [c]) = byteLength cs + 1 := by
  rw [byteLength_concat, utf8Size_of_lt hc]

theorem byteLength_toList (text : String) : byteLength text.toList = text.utf8ByteSize := by
  rw [byteLength_eq, String.ofList_toList]

/-- Where a front of a text ends, a character ends. -/
theorem isValid_byteLength {text : String} {front rest : List Char}
    (h : text.toList = front ++ rest) : (⟨byteLength front⟩ : String.Pos.Raw).IsValid text := by
  rw [String.Pos.Raw.isValid_iff_exists_append]
  refine ⟨String.ofList front, String.ofList rest, ?_, ?_⟩
  · rw [← String.ofList_append, ← h, String.ofList_toList]
  · rw [byteLength_eq]
    rfl

/-! ## Places in a text -/

/-- A byte as a character, which is the one that it stands for if it is one of ASCII. -/
def charOfByte (b : UInt8) : Char :=
  Char.ofNat b.toNat

/-- The bytes of a text. -/
def bytesOf (text : String) : List UInt8 :=
  text.toByteArray.data.toList

section Places

variable (text : String)

/-- The byte at a place, read as a character. -/
def byte? (i : Nat) : Option Char :=
  (bytesOf text)[i]?.map charOfByte

/-- What stands between two places, if these are where characters begin or the text ends. -/
def slice? (start stop : Nat) : Option String :=
  if h : String.Pos.Raw.IsValid text ⟨start⟩ ∧ String.Pos.Raw.IsValid text ⟨stop⟩ ∧
      start ≤ stop then
    some (String.extract (text.pos ⟨start⟩ h.1) (text.pos ⟨stop⟩ h.2.1))
  else none

/-- The character that begins at a place. -/
def charAt? (i : Nat) : Option Char :=
  (slice? text i text.utf8ByteSize).map fun rest => rest.toList.headD '\x00'

/-- The end of a run of bytes of a class. -/
def skipBytes (p : Char → Bool) (i : Nat) : Nat :=
  i + (((bytesOf text).drop i).takeWhile fun b => p (charOfByte b)).length

end Places

/-- A byte is found only inside a text. -/
theorem lt_utf8ByteSize_of_byte? {text : String} {i : Nat} {b : Char} (h : byte? text i = some b) :
    i < text.utf8ByteSize := by
  rw [byte?, Option.map_eq_some_iff] at h
  obtain ⟨_, h, -⟩ := h
  have hlt := (List.getElem?_eq_some_iff.mp h).1
  rwa [bytesOf, Array.length_toList, ByteArray.size_data, String.size_toByteArray] at hlt

/-! ## Bytes of characters -/

/-- A byte read as a character keeps its number. -/
theorem toNat_charOfByte (b : UInt8) : (charOfByte b).toNat = b.toNat := by
  have hvalid : b.toNat.isValidChar := .inl (Nat.lt_trans b.toNat_lt (by decide))
  rw [charOfByte, Char.ofNat, dif_pos hvalid]
  rfl

/-- A character of ASCII has one byte, which stands for it. -/
theorem utf8EncodeChar_of_lt {c : Char} (h : c.toNat < 0x80) :
    ∃ b, String.utf8EncodeChar c = [b] ∧ charOfByte b = c := by
  refine ⟨_, String.utf8EncodeChar_eq_singleton (utf8Size_of_lt h), Char.toNat_inj.mp ?_⟩
  rw [toNat_charOfByte]
  exact Nat.mod_eq_of_lt (Nat.lt_trans h (by decide))

/-- No byte of any other character stands for one of ASCII. -/
theorem le_toNat_charOfByte {c : Char} (h : 0x80 ≤ c.toNat) {b : UInt8}
    (hb : b ∈ String.utf8EncodeChar c) : 0x80 ≤ (charOfByte b).toNat := by
  have hor : ∀ x y : UInt8, 0x80 ≤ y.toNat → 0x80 ≤ (x ||| y).toNat := by
    intro x y hy
    rw [UInt8.toNat_or]
    exact Nat.le_trans hy Nat.right_le_or
  rw [toNat_charOfByte]
  rcases c.utf8Size_eq with hsize | hsize | hsize | hsize
  · rw [Char.utf8Size_eq_one_iff, UInt32.le_iff_toNat_le] at hsize
    exact absurd (Nat.le_trans h hsize) (by decide)
  · rw [String.utf8EncodeChar_eq_cons_cons hsize] at hb
    simp only [List.mem_cons, List.not_mem_nil, or_false] at hb
    rcases hb with rfl | rfl <;> exact hor _ _ (by decide)
  · rw [String.utf8EncodeChar_eq_cons_cons_cons hsize] at hb
    simp only [List.mem_cons, List.not_mem_nil, or_false] at hb
    rcases hb with rfl | rfl | rfl <;> exact hor _ _ (by decide)
  · rw [String.utf8EncodeChar_eq_cons_cons_cons_cons hsize] at hb
    simp only [List.mem_cons, List.not_mem_nil, or_false] at hb
    rcases hb with rfl | rfl | rfl | rfl <;> exact hor _ _ (by decide)

/-- The first byte of a character. -/
def firstByte (c : Char) : Char :=
  charOfByte ((String.utf8EncodeChar c).headD 0)

theorem firstByte_of_lt {c : Char} (h : c.toNat < 0x80) : firstByte c = c := by
  obtain ⟨b, hb, hc⟩ := utf8EncodeChar_of_lt h
  rw [firstByte, hb]
  exact hc

/-- A character begins with its first byte. -/
theorem utf8EncodeChar_eq_cons (c : Char) :
    ∃ b bs, String.utf8EncodeChar c = b :: bs ∧ charOfByte b = firstByte c := by
  have hlength := String.length_utf8EncodeChar c
  have := c.utf8Size_pos
  cases hbs : String.utf8EncodeChar c with
  | nil =>
    rw [hbs, List.length_nil] at hlength
    omega
  | cons b bs => exact ⟨b, bs, rfl, by rw [firstByte, hbs]; rfl⟩

/-- The first byte of a character beyond ASCII is none of ASCII either. -/
theorem le_firstByte {c : Char} (h : 0x80 ≤ c.toNat) : 0x80 ≤ (firstByte c).toNat := by
  obtain ⟨b, bs, hbs, hb⟩ := utf8EncodeChar_eq_cons c
  rw [← hb]
  exact le_toNat_charOfByte h (hbs ▸ List.mem_cons_self)

/-- A function that does not tell the characters beyond ASCII apart. -/
def Coarse {α : Type} (f : Char → α) : Prop :=
  ∀ c d : Char, 0x80 ≤ c.toNat → 0x80 ≤ d.toNat → f c = f d

/-- Such a function can be applied to the first byte. -/
theorem Coarse.firstByte {α : Type} {f : Char → α} (h : Coarse f) (c : Char) :
    f (firstByte c) = f c := by
  rcases Nat.lt_or_ge c.toNat 0x80 with hlt | hge
  · rw [firstByte_of_lt hlt]
  · exact h _ _ (le_firstByte hge) hge

/-- A function that takes one value beyond ASCII does not tell the characters there apart. -/
theorem coarse_of_eq {α : Type} {f : Char → α} {a : α} (h : ∀ c : Char, 0x80 ≤ c.toNat → f c = a) :
    Coarse f :=
  fun c d hc hd => (h c hc).trans (h d hd).symm

/-- No character beyond ASCII is one of ASCII. -/
theorem beq_eq_false_of_le {c d : Char} (hc : 0x80 ≤ c.toNat) (hd : d.toNat < 0x80) :
    (c == d) = false := by
  refine beq_eq_false_iff_ne.mpr ?_
  rintro rfl
  omega

theorem coarse_beq {d : Char} (hd : d.toNat < 0x80) : Coarse (· == d) :=
  coarse_of_eq fun _ hc => beq_eq_false_of_le hc hd

theorem coarse_bne {d : Char} (hd : d.toNat < 0x80) : Coarse (· != d) :=
  coarse_of_eq fun _ hc => congrArg not (beq_eq_false_of_le hc hd)

theorem isSpace_of_le {c : Char} (hc : 0x80 ≤ c.toNat) : Text.isSpace c = false := by
  simp [Text.isSpace, beq_eq_false_of_le hc]

theorem isAsciiDigit_of_le {c : Char} (hc : 0x80 ≤ c.toNat) : Text.isAsciiDigit c = false := by
  refine Bool.eq_false_of_not_eq_true fun hdigit => ?_
  have hle := (Text.isAsciiDigit_iff.mp hdigit).2
  omega

theorem singleSymbol?_of_le {c : Char} (hc : 0x80 ≤ c.toNat) : singleSymbol? c = none := by
  unfold singleSymbol?
  split
  all_goals first | rfl | exact absurd hc (by decide)

/-- White space is in ASCII. -/
theorem coarse_isSpace : Coarse Text.isSpace :=
  coarse_of_eq fun _ hc => isSpace_of_le hc

theorem coarse_isAsciiDigit : Coarse Text.isAsciiDigit :=
  coarse_of_eq fun _ hc => isAsciiDigit_of_le hc

/-! ## The cursor at a character -/

theorem bytesOf_eq (text : String) : bytesOf text = text.toList.flatMap String.utf8EncodeChar := by
  rw [bytesOf, ← String.utf8Encode_toList]
  exact List.toList_data_toByteArray

/-- A text is told by its bytes. -/
theorem bytesOf_inj {s t : String} (h : bytesOf s = bytesOf t) : s = t :=
  String.toByteArray_inj.mp (ByteArray.ext (Array.toList_inj.mp h))

theorem length_flatMap_utf8EncodeChar (cs : List Char) :
    (cs.flatMap String.utf8EncodeChar).length = byteLength cs := by
  induction cs with
  | nil => rfl
  | cons c cs ih =>
    rw [List.flatMap_cons, List.length_append, String.length_utf8EncodeChar, ih, byteLength_cons]

/-- The bytes of two texts stand one behind the other. -/
theorem bytesOf_append (s t : String) : bytesOf (s ++ t) = bytesOf s ++ bytesOf t := by
  rw [bytesOf_eq, bytesOf_eq, bytesOf_eq, String.toList_append, List.flatMap_append]

theorem length_bytesOf (s : String) : (bytesOf s).length = s.utf8ByteSize := by
  rw [bytesOf_eq, length_flatMap_utf8EncodeChar, byteLength_toList]

/-- A run of the bytes of a class is a run of its characters. -/
theorem takeWhile_flatMap_utf8EncodeChar {p : Char → Bool} (hp : Coarse p) (cs : List Char) :
    (cs.flatMap String.utf8EncodeChar).takeWhile (fun b => p (charOfByte b)) =
      (cs.takeWhile p).flatMap String.utf8EncodeChar := by
  induction cs with
  | nil => rfl
  | cons c cs ih =>
    obtain ⟨b, bs, hbs, hb⟩ := utf8EncodeChar_eq_cons c
    have hfirst : p (charOfByte b) = p c := by rw [hb, hp.firstByte]
    rw [List.flatMap_cons, List.takeWhile_cons]
    cases hc : p c with
    | false =>
      rw [hbs, List.cons_append, List.takeWhile_cons_of_neg (by rw [hfirst, hc]; decide)]
      rfl
    | true =>
      have hall : ∀ b' ∈ String.utf8EncodeChar c, p (charOfByte b') = true := by
        intro b' hb'
        rcases Nat.lt_or_ge c.toNat 0x80 with hlt | hge
        · obtain ⟨_, hone, hchar⟩ := utf8EncodeChar_of_lt hlt
          rw [hone, List.mem_singleton] at hb'
          rw [hb', hchar, hc]
        · rw [hp _ _ (le_toNat_charOfByte hge hb') hge, hc]
      rw [List.takeWhile_append_of_pos hall, ih, if_pos rfl, List.flatMap_cons]

section Cursor

variable {text : String} {front rest : List Char}

theorem toList_eq_concat {c : Char} {cs : List Char} (h : text.toList = front ++ c :: cs) :
    text.toList = front ++ [c] ++ cs := by
  rw [h, List.append_assoc]
  rfl

theorem toList_eq_cut (cut : Cut rest) (h : text.toList = front ++ rest) :
    text.toList = front ++ cut.front ++ cut.rest := by
  rw [List.append_assoc, cut.append_eq, h]

theorem drop_bytesOf (h : text.toList = front ++ rest) :
    (bytesOf text).drop (byteLength front) = rest.flatMap String.utf8EncodeChar := by
  rw [bytesOf_eq, h, List.flatMap_append, ← length_flatMap_utf8EncodeChar, List.drop_left]

/-- Where a character begins, the byte is its first one. -/
theorem byte?_eq (h : text.toList = front ++ rest) :
    byte? text (byteLength front) = rest.head?.map firstByte := by
  rw [byte?, ← List.head?_drop, drop_bytesOf h]
  cases rest with
  | nil => rfl
  | cons c cs =>
    obtain ⟨b, bs, hbs, hb⟩ := utf8EncodeChar_eq_cons c
    rw [List.flatMap_cons, hbs]
    exact congrArg some hb

/-- Jumping over bytes of a class is jumping over its characters. -/
theorem skipBytes_eq {p : Char → Bool} (hp : Coarse p) (h : text.toList = front ++ rest) :
    skipBytes text p (byteLength front) = byteLength (front ++ rest.takeWhile p) := by
  rw [skipBytes, drop_bytesOf h, takeWhile_flatMap_utf8EncodeChar hp,
    length_flatMap_utf8EncodeChar, byteLength_append]

/-- What stands between two places is cut out, because both are between characters. -/
theorem slice?_eq {middle : List Char} (h : text.toList = front ++ middle ++ rest) :
    slice? text (byteLength front) (byteLength (front ++ middle)) =
      some (String.ofList middle) := by
  have hstart : (⟨byteLength front⟩ : String.Pos.Raw).IsValid text :=
    isValid_byteLength (h.trans (List.append_assoc _ _ _))
  have hstop : (⟨byteLength (front ++ middle)⟩ : String.Pos.Raw).IsValid text :=
    isValid_byteLength h
  have hle : byteLength front ≤ byteLength (front ++ middle) := by
    rw [byteLength_append]
    omega
  rw [slice?, dif_pos ⟨hstart, hstop, hle⟩]
  refine congrArg some (bytesOf_inj ?_)
  rw [List.append_assoc] at h
  have hlength : byteLength (front ++ middle) - byteLength front =
      (middle.flatMap String.utf8EncodeChar).length := by
    rw [byteLength_append, length_flatMap_utf8EncodeChar]
    omega
  rw [bytesOf_eq (String.ofList middle), String.toList_ofList, bytesOf, String.toByteArray_extract,
    ByteArray.data_extract, Array.toList_extract]
  show ((bytesOf text).drop (byteLength front)).take
    (byteLength (front ++ middle) - byteLength front) = _
  rw [drop_bytesOf h, List.flatMap_append, hlength, List.take_left]

/-- Where a character begins, that character is read. -/
theorem charAt?_eq {c : Char} {cs : List Char} (h : text.toList = front ++ c :: cs) :
    charAt? text (byteLength front) = some c := by
  have hslice := @slice?_eq text front [] (c :: cs) (by rw [h, List.append_nil])
  rw [← h, byteLength_toList] at hslice
  rw [charAt?, hslice, Option.map_some, String.toList_ofList]
  rfl

/-- Behind the last character the text ends. -/
theorem not_byteLength_lt (h : text.toList = front ++ []) :
    ¬ byteLength front < text.utf8ByteSize := by
  rw [← byteLength_toList, h, List.append_nil]
  exact Nat.lt_irrefl _

theorem byteLength_front_lt {c : Char} {cs : List Char} (h : text.toList = front ++ c :: cs) :
    byteLength front < text.utf8ByteSize := by
  have := c.utf8Size_pos
  rw [← byteLength_toList, h, byteLength_append, byteLength_cons]
  omega

/-! ## Looking ahead -/

/-- Looking for a character of ASCII, the next byte tells as much as the next character. -/
theorem byte?_beq {d : Char} (hd : d.toNat < 0x80) (h : text.toList = front ++ rest) :
    (byte? text (byteLength front) == some d) = (rest.head? == some d) := by
  rw [byte?_eq h]
  cases rest with
  | nil => rfl
  | cons c cs => exact (coarse_beq hd).firstByte c

theorem byte?_any {p : Char → Bool} (hp : Coarse p) (h : text.toList = front ++ rest) :
    (byte? text (byteLength front)).any p = rest.head?.any p := by
  rw [byte?_eq h]
  cases rest with
  | nil => rfl
  | cons c cs => exact hp.firstByte c

end Cursor

section Next

variable {text : String} {front cs : List Char} {c d : Char}

theorem byte?_succ_beq (hc : c.toNat < 0x80) (hd : d.toNat < 0x80)
    (h : text.toList = front ++ c :: cs) :
    (byte? text (byteLength front + 1) == some d) = (cs.head? == some d) := by
  rw [← byteLength_concat_of_lt hc front, byte?_beq hd (toList_eq_concat h)]

/-- The character looked for is the next one. -/
theorem ite_byte?_of_next {α : Type} {x y : α} (hc : c.toNat < 0x80)
    (hd : d.toNat < 0x80) (h : text.toList = front ++ c :: d :: cs) :
    (if byte? text (byteLength front + 1) == some d then x else y) = x := by
  rw [byte?_succ_beq hc hd h, List.head?_cons, beq_self_eq_true, if_pos rfl]

/-- The character looked for is not the next one. -/
theorem ite_byte?_of_ne {α : Type} {x y : α} (hc : c.toNat < 0x80)
    (hd : d.toNat < 0x80) (hne : ∀ ds, cs = d :: ds → False) (h : text.toList = front ++ c :: cs) :
    (if byte? text (byteLength front + 1) == some d then x else y) = y := by
  have hhead : ¬ (cs.head? == some d) = true := by
    rw [beq_iff_eq, List.head?_eq_some_iff]
    rintro ⟨ds, hds⟩
    exact hne ds hds
  rw [byte?_succ_beq hc hd h, if_neg hhead]

theorem firstByte_ne (hd : d.toNat < 0x80) (h : c ≠ d) : firstByte c ≠ d := by
  have hbeq := (coarse_beq hd).firstByte c
  rw [beq_eq_false_iff_ne.mpr h] at hbeq
  exact beq_eq_false_iff_ne.mp hbeq

end Next

end HtmlQuery
