import HtmlQuery.Encoding.Decoding
import HtmlQuery.Proofs.Encoding.Unicode

/-!
# Bytes that are read in pairs

UTF-16 and the encodings of East Asia read a byte-order mark of UTF-8 as letters, at most two bytes
at a time.  In UTF-8 these letters have two bytes or more, and no byte of ASCII.  So if what follows
the mark were the same text in UTF-8, every pair that is read would bring a pair that is still to be
read, and reading would never come to an end (`readUtf8_rest_ne`).

The encodings of East Asia are read by tables that are not here.  `ReadsPairs` and `ReadsEucJp` say
what the argument needs of them.  EUC-JP is apart, since it also has letters of three bytes that
have only two in UTF-8.  In it, the letter that the mark begins with leads to bytes that stand for
nothing.
-/

namespace HtmlQuery.Encoding

variable {read : List UInt8 → List (Option Char)} {P : UInt8 → Prop} {Q : Char → Prop}
  {bytes front rest : List UInt8} {text more : List Char}

theorem none_notMem {entries : List (Option Char)} (h : entries = text.map some) :
    none ∉ entries := by
  simp [h]

/-! ## Reading on behind what was read -/

/-- Where two bytes of one kind stand in front, a reader gives a character of another kind for the
first one, or such characters for both, unless the bytes do not all stand for characters. -/
def TakesPairs (read : List UInt8 → List (Option Char)) (P : UInt8 → Prop) (Q : Char → Prop) :
    Prop :=
  ∀ a b rest, P a → P b →
    none ∈ read (a :: b :: rest) ∨
      (∃ c, Q c ∧ read (a :: b :: rest) = some c :: read (b :: rest)) ∨
      ∃ cs, cs ≠ [] ∧ (∀ c ∈ cs, Q c) ∧ read (a :: b :: rest) = cs.map some ++ read rest

/-- Characters of one kind are written in UTF-8 with bytes of another kind. -/
structure WrittenIn (Q : Char → Prop) (P : UInt8 → Prop) : Prop where
  /-- They are beyond ASCII. -/
  low : ∀ {c}, Q c → 0x80 ≤ c.toNat
  /-- They do not stand for bytes that are nothing. -/
  ne : ∀ {c}, Q c → c ≠ '\uFFFD'
  /-- Their bytes are of the other kind. -/
  bytes : ∀ {c written}, Q c → IsWritten c written → ∀ b ∈ written, P b

theorem IsWritten.two_le_length {c : Char} {written : List UInt8} (h : IsWritten c written) :
    2 ≤ written.length := by
  cases h <;> simp

/-- A text that begins with such characters begins with such bytes, two or more for each. -/
theorem WrittenIn.exists_bytes (hwritten : WrittenIn Q P) {cs : List Char} (hcs : ∀ c ∈ cs, Q c)
    (h : filled (readUtf8 bytes) = cs ++ more) :
    ∃ written rest, bytes = written ++ rest ∧ 2 * cs.length ≤ written.length ∧
      (∀ b ∈ written, P b) ∧ filled (readUtf8 rest) = more := by
  induction cs generalizing bytes with
  | nil => exact ⟨[], bytes, rfl, by simp, by simp, h⟩
  | cons c cs ih =>
    have hc : Q c := hcs c (by simp)
    obtain ⟨written, rest, rfl, hw, h⟩ :=
      readUtf8_eq_cons h (hwritten.low hc) (hwritten.ne hc)
    obtain ⟨written', rest, rfl, hlength, hbytes, h⟩ := ih (fun c' hc' => hcs c' (by simp [hc'])) h
    refine ⟨written ++ written', rest, (List.append_assoc ..).symm, ?_, fun b hb => ?_, h⟩
    · have htwo := hw.two_le_length
      simp only [List.length_cons, List.length_append]
      omega
    · exact (List.mem_append.mp hb).elim (hwritten.bytes hc hw b) (hbytes b)

/-- A text that begins with pairs of such bytes is not what its rest is in UTF-8.  A step takes two
bytes from the front at most, and adds at least as many to it. -/
theorem readUtf8_rest_ne (hread : TakesPairs read P Q) (hwritten : WrittenIn Q P)
    (hfront : ∀ b ∈ front, P b) (hlength : 2 ≤ front.length)
    (h : read (front ++ rest) = text.map some) : filled (readUtf8 rest) ≠ text := by
  intro hrest
  induction hn : text.length using Nat.strong_induction_on generalizing text front rest with
  | _ n ih =>
    match front with
    | [] | [_] => simp at hlength
    | a :: b :: front =>
      have hfront' : ∀ x ∈ b :: front, P x := fun x hx => hfront x (List.mem_cons_of_mem _ hx)
      rw [List.cons_append, List.cons_append] at h
      rcases hread a b (front ++ rest) (hfront a (by simp)) (hfront' b (by simp)) with
        hnone | ⟨c, hc, hone⟩ | ⟨cs, hne, hcs, hpair⟩
      · exact none_notMem h hnone
      · rw [hone] at h
        obtain ⟨_, text, rfl, hc', htext⟩ := List.map_eq_cons_iff.mp h.symm
        cases hc'
        have hcs : ∀ c' ∈ [c], Q c' := by simpa using hc
        obtain ⟨written, rest, rfl, hmore, hbytes, hrest⟩ := hwritten.exists_bytes hcs hrest
        have hfront : ∀ x ∈ b :: front ++ written, P x := fun x hx =>
          (List.mem_append.mp hx).elim (hfront' x) (hbytes x)
        refine ih text.length (by simp [← hn]) hfront ?_ ?_ hrest rfl
        · simp only [List.length_append, List.length_cons, List.length_nil] at hmore ⊢
          omega
        · simpa using htext.symm
      · rw [hpair] at h
        obtain ⟨cs', text, rfl, hcs', htext⟩ := List.map_eq_append_iff.mp h.symm
        obtain rfl : cs' = cs := List.map_injective_iff.mpr (Option.some_injective _) hcs'
        obtain ⟨written, rest, rfl, hmore, hbytes, hrest⟩ := hwritten.exists_bytes hcs hrest
        have hpos := List.length_pos_of_ne_nil hne
        have hfront : ∀ x ∈ front ++ written, P x := fun x hx =>
          (List.mem_append.mp hx).elim (fun hx => hfront' x (List.mem_cons_of_mem _ hx)) (hbytes x)
        refine ih text.length ?_ hfront ?_ ?_ hrest rfl
        · simp only [← hn, List.length_append]
          omega
        · simp only [List.length_append]
          omega
        · simpa using htext.symm

/-! ## UTF-16 -/

/-- The bytes that occur in characters of three bytes. -/
def InThree (b : UInt8) : Prop :=
  Continues b ∨ 0xE0 ≤ b.toNat ∧ b.toNat < 0xF0

/-- The characters that have three bytes, up to the last of them. -/
def IsThree (c : Char) : Prop :=
  0x800 ≤ c.toNat ∧ c.toNat < 0xF000

theorem writtenIn_three : WrittenIn IsThree InThree where
  low h := Nat.le_trans (by decide) h.1
  ne h := by
    rintro rfl
    exact absurd h.2 (by decide)
  bytes := by
    rintro c written ⟨hlow, hhigh⟩ (⟨hx, hy, hc⟩ | ⟨hx, hy, hz, hc⟩ | ⟨hx, hy, hz, hw, hc⟩)
    · omega
    · simp [InThree, hx, hy, hz]
    · omega

/-- Two bytes of characters of three bytes make up a unit that is a character of three bytes. -/
def JoinsThree (unit : UInt8 → UInt8 → Nat) : Prop :=
  ∀ a b, InThree a → InThree b →
    0x800 ≤ unit a b ∧ unit a b < 0xF000 ∧ ¬ (0xD800 ≤ unit a b ∧ unit a b < 0xE000)

theorem joinsThree_be : JoinsThree fun a b => a.toNat * 256 + b.toNat := by
  intro a b ha hb
  simp only [InThree, Continues] at ha hb
  dsimp only
  omega

theorem joinsThree_le : JoinsThree fun a b => b.toNat * 256 + a.toNat :=
  fun a b ha hb => joinsThree_be b a hb ha

theorem takesPairs_utf16 {unit : UInt8 → UInt8 → Nat} (hunit : JoinsThree unit) :
    TakesPairs (readUtf16From unit none) InThree IsThree := by
  intro a b rest ha hb
  obtain ⟨hlow, hhigh, hsurrogate⟩ := hunit a b ha hb
  have hh : ¬ isHighSurrogate (unit a b) = true := by grind [isHighSurrogate]
  have hl : ¬ isLowSurrogate (unit a b) = true := by grind [isLowSurrogate]
  have hvalid : (unit a b).isValidChar := by
    rcases Nat.lt_or_ge (unit a b) 0xD800 with h | h
    · exact .inl h
    · exact .inr ⟨by omega, by omega⟩
  refine .inr (.inr ⟨[Char.ofNat (unit a b)], by simp, ?_, ?_⟩)
  · simp [IsThree, Char.toNat_ofNat, hvalid, hlow, hhigh]
  · rw [readUtf16From, if_neg hh, if_neg hl]
    rfl

/-! ## The encodings of East Asia -/

/-- A character beyond ASCII that does not stand for bytes that are nothing. -/
def IsLetter (c : Char) : Prop :=
  0x80 ≤ c.toNat ∧ c ≠ '\uFFFD'

theorem writtenIn_letter : WrittenIn IsLetter (0x80 ≤ ·.toNat) where
  low h := h.1
  ne h := h.2
  bytes := by
    rintro c written - (⟨hx, hy, hc⟩ | ⟨hx, hy, hz, hc⟩ | ⟨hx, hy, hz, hw, hc⟩)
    all_goals simp only [Continues] at *; simp; omega

/-- What the standard says of a reader for GBK, gb18030, Big5, ISO-2022-JP, Shift_JIS or EUC-KR. -/
structure ReadsPairs (read : List UInt8 → List (Option Char)) : Prop where
  /-- No character has a byte FF. -/
  none_of_ff : ∀ bytes, 0xFF ∈ bytes → none ∈ read bytes
  /-- Where two bytes beyond ASCII stand in front, both are one letter, or two letters in Big5, or
  the first one is a letter by itself, or they are malformed.  The letters of gb18030 with four
  bytes have a digit of ASCII in the second place. -/
  pairs : TakesPairs read (0x80 ≤ ·.toNat) IsLetter

/-- Whether a byte is one of those that the tables of EUC-JP have their rows and columns for. -/
def IsCell (b : UInt8) : Prop :=
  0xA1 ≤ b.toNat ∧ b.toNat ≤ 0xFE

/-- What the standard says of a reader for EUC-JP. -/
structure ReadsEucJp (read : List UInt8 → List (Option Char)) : Prop where
  /-- No character has a byte FF. -/
  none_of_ff : ∀ bytes, 0xFF ∈ bytes → none ∈ read bytes
  /-- A row and a column of JIS X 0208 are one letter, or malformed. -/
  pairs : ∀ a b rest, IsCell a → IsCell b →
    none ∈ read (a :: b :: rest) ∨ ∃ c, read (a :: b :: rest) = some c :: read rest
  /-- The letter in row 79 and column 27. -/
  letter : ∀ rest, read (0xEF :: 0xBB :: rest) = some '鏤' :: read rest
  /-- Behind 8F there is a row of JIS X 0212, and row 4 has no letters. -/
  row : ∀ rest, none ∈ read (0x8F :: 0xA4 :: rest)

/-- That an encoding is read as the standard says.  Only those of East Asia are read by a reader
that is not here. -/
def FollowsStandard [MultiByteReader] (e : Encoding) : Prop :=
  match e with
  | .gbk | .gb18030 | .big5 | .iso2022Jp | .shiftJis | .eucKr =>
    ReadsPairs (MultiByteReader.read e)
  | .eucJp => ReadsEucJp (MultiByteReader.read .eucJp)
  | _ => True

/-- The encodings of East Asia. -/
def multiByte : List Encoding :=
  [.gbk, .gb18030, .big5, .eucJp, .iso2022Jp, .shiftJis, .eucKr]

/-- The bytes of the letter that EUC-JP reads at the front of a mark. -/
theorem readUtf8_eucJp (h : filled (readUtf8 bytes) = '鏤' :: more) :
    ∃ rest, bytes = 0xE9 :: 0x8F :: 0xA4 :: rest := by
  obtain ⟨written, rest, rfl, hw, -⟩ := readUtf8_eq_cons h (by decide) (by decide)
  have htoNat : '鏤'.toNat = 0x93E4 := rfl
  rcases hw with ⟨hx, hy, hc⟩ | ⟨hx, hy, hz, hc⟩ | ⟨hx, hy, hz, hw, hc⟩
  · omega
  · next x y z =>
    simp only [Continues] at hy hz
    have hx : x = 0xE9 := UInt8.toNat_inj.mp (show x.toNat = 0xE9 by omega)
    have hy : y = 0x8F := UInt8.toNat_inj.mp (show y.toNat = 0x8F by omega)
    have hz : z = 0xA4 := UInt8.toNat_inj.mp (show z.toNat = 0xA4 by omega)
    exact ⟨rest, by simp [hx, hy, hz]⟩
  · omega

/-- EUC-JP reads no text that begins with the mark of UTF-8 and goes on, in UTF-8, with the text. -/
theorem ReadsEucJp.rest_ne (hread : ReadsEucJp read)
    (h : read (0xEF :: 0xBB :: 0xBF :: rest) = text.map some) : filled (readUtf8 rest) ≠ text := by
  intro hrest
  rw [hread.letter] at h
  cases text with
  | nil => cases h
  | cons c text =>
    obtain rfl : '鏤' = c := Option.some.inj (List.cons.inj h).1
    obtain ⟨rest, rfl⟩ := readUtf8_eucJp hrest
    -- The last byte of the mark is one letter with the first byte of 鏤 in UTF-8.
    have hnone : none ∈ read (0xBF :: 0xE9 :: 0x8F :: 0xA4 :: rest) := by
      rcases hread.pairs 0xBF 0xE9 (0x8F :: 0xA4 :: rest) (by simp [IsCell]) (by simp [IsCell]) with
        hbad | ⟨c, hc⟩
      · exact hbad
      · rw [hc]
        exact List.mem_cons_of_mem _ (hread.row rest)
    exact none_notMem h (List.mem_cons_of_mem _ hnone)

theorem byteOrderMark?_eq_some {marked : Encoding}
    (h : byteOrderMark? bytes = some (marked, rest)) :
    marked = .utf8 ∧ bytes = 0xEF :: 0xBB :: 0xBF :: rest ∨
      marked = .utf16be ∧ bytes = 0xFE :: 0xFF :: rest ∨
      marked = .utf16le ∧ bytes = 0xFF :: 0xFE :: rest := by
  unfold byteOrderMark? at h
  split at h <;> cases h <;> simp

/-- No text of an encoding of East Asia that begins with a byte-order mark is what follows the mark
in the encoding of the mark. -/
theorem filled_ne_of_multiByte [MultiByteReader] {e marked : Encoding} (he : e ∈ multiByte)
    (hstandard : e.FollowsStandard) (hmark : byteOrderMark? bytes = some (marked, rest))
    (h : e.read bytes = text.map some) : filled (marked.read rest) ≠ text := by
  have pairs (hread : ReadsPairs e.read) : filled (marked.read rest) ≠ text := by
    rcases byteOrderMark?_eq_some hmark with ⟨rfl, rfl⟩ | ⟨-, rfl⟩ | ⟨-, rfl⟩
    · have hhigh : ∀ b ∈ ([0xEF, 0xBB, 0xBF] : List UInt8), 0x80 ≤ b.toNat := by simp
      exact readUtf8_rest_ne hread.pairs writtenIn_letter hhigh (by simp) h
    · exact absurd (hread.none_of_ff _ (by simp)) (none_notMem h)
    · exact absurd (hread.none_of_ff _ (by simp)) (none_notMem h)
  simp only [multiByte, List.mem_cons, List.not_mem_nil, or_false] at he
  rcases he with rfl | rfl | rfl | rfl | rfl | rfl | rfl
  · exact pairs hstandard
  · exact pairs hstandard
  · exact pairs hstandard
  · have hread : ReadsEucJp Encoding.eucJp.read := hstandard
    rcases byteOrderMark?_eq_some hmark with ⟨rfl, rfl⟩ | ⟨-, rfl⟩ | ⟨-, rfl⟩
    · exact hread.rest_ne h
    · exact absurd (hread.none_of_ff _ (by simp)) (none_notMem h)
    · exact absurd (hread.none_of_ff _ (by simp)) (none_notMem h)
  · exact pairs hstandard
  · exact pairs hstandard
  · exact pairs hstandard

/-! ## Readers with few letters -/

/-- The reader for ASCII and the letters of a list, which have two bytes each. -/
def readLetters (letters : List ((UInt8 × UInt8) × Char)) : List UInt8 → List (Option Char)
  | [] => []
  | [b] => [if b.toNat < 0x80 then some (Char.ofNat b.toNat) else none]
  | a :: b :: rest =>
    if a.toNat < 0x80 then some (Char.ofNat a.toNat) :: readLetters letters (b :: rest)
    else
      match letters.lookup (a, b) with
      | some c => some c :: readLetters letters rest
      | none => none :: readLetters letters (b :: rest)

section

variable {letters : List ((UInt8 × UInt8) × Char)} {a b : UInt8}

theorem mem_of_lookup {c : Char} (h : letters.lookup (a, b) = some c) : ((a, b), c) ∈ letters := by
  obtain ⟨front, back, rfl, -⟩ := List.lookup_eq_some_iff.mp h
  simp

theorem readLetters_of_high (ha : 0x80 ≤ a.toNat) (rest : List UInt8) :
    readLetters letters (a :: b :: rest) =
      match letters.lookup (a, b) with
      | some c => some c :: readLetters letters rest
      | none => none :: readLetters letters (b :: rest) := by
  rw [readLetters, if_neg (by omega)]

theorem none_of_ff_readLetters (h : ∀ l ∈ letters, l.1.1 ≠ 0xFF ∧ l.1.2 ≠ 0xFF)
    (bytes : List UInt8) (hff : 0xFF ∈ bytes) : none ∈ readLetters letters bytes := by
  have hhigh : ¬ (0xFF : UInt8).toNat < 0x80 := by decide
  induction bytes using readLetters.induct letters with
  | case1 => cases hff
  | case2 b =>
    obtain rfl : 0xFF = b := by simpa using hff
    simp [readLetters]
  | case3 a b rest ha ih =>
    rw [readLetters, if_pos ha]
    have hne : (0xFF : UInt8) ≠ a := fun he => hhigh (he ▸ ha)
    exact List.mem_cons_of_mem _ (ih (List.mem_of_ne_of_mem hne hff))
  | case4 a b rest ha c hc ih =>
    have hl := h _ (mem_of_lookup hc)
    rw [readLetters_of_high (by omega), hc]
    have hrest : 0xFF ∈ rest := by
      rcases List.mem_cons.mp hff with he | hff
      · exact absurd he.symm hl.1
      · exact List.mem_of_ne_of_mem hl.2.symm hff
    exact List.mem_cons_of_mem _ (ih hrest)
  | case5 a b rest ha hc ih =>
    rw [readLetters_of_high (by omega), hc]
    exact List.mem_cons_self

/-- Letters without FF that are beyond ASCII are read as the standard says. -/
theorem readsPairs_readLetters (h : ∀ l ∈ letters, l.1.1 ≠ 0xFF ∧ l.1.2 ≠ 0xFF)
    (hletters : ∀ l ∈ letters, IsLetter l.2) : ReadsPairs (readLetters letters) where
  none_of_ff := none_of_ff_readLetters h
  pairs a b rest ha hb := by
    rw [readLetters_of_high ha]
    cases hc : letters.lookup (a, b) with
    | none => simp
    | some c =>
      have hletter : IsLetter c := hletters _ (mem_of_lookup hc)
      exact .inr (.inr ⟨[c], by simp, by simpa using hletter, rfl⟩)

/-- With 鏤 among the letters, and none in row 4 of JIS X 0212, this is a part of EUC-JP. -/
theorem readsEucJp_readLetters (h : ∀ l ∈ letters, l.1.1 ≠ 0xFF ∧ l.1.2 ≠ 0xFF)
    (hletter : letters.lookup (0xEF, 0xBB) = some '鏤')
    (hrow : letters.lookup (0x8F, 0xA4) = none) : ReadsEucJp (readLetters letters) where
  none_of_ff := none_of_ff_readLetters h
  pairs a b rest ha hb := by
    rw [readLetters_of_high (Nat.le_trans (by decide) ha.1)]
    cases letters.lookup (a, b) <;> simp
  letter rest := by rw [readLetters_of_high (by decide), hletter]
  row rest := by
    rw [readLetters_of_high (by decide), hrow]
    exact List.mem_cons_self

end

end HtmlQuery.Encoding
