import HtmlQuery.Encoding.Unicode
import Mathlib

/-!
# How many bytes a character takes

A reader of UTF-8 gives at most one entry for a byte (`length_readUtf8From_le`), and a character
beyond ASCII is known by the bytes it is made of (`readUtf8_eq_cons`).  A reader of UTF-16 takes two
bytes for a unit, and characters have one unit or two (`units`).  Where every byte
belongs to a character that gives the number of bytes (`length_le_units`), and elsewhere a bound
for it (`units_le_length`).
-/

namespace HtmlQuery.Encoding

@[simp] theorem filled_some (c : Char) (entries : List (Option Char)) :
    filled (some c :: entries) = c :: filled entries :=
  rfl

@[simp] theorem filled_none (entries : List (Option Char)) :
    filled (none :: entries) = '\uFFFD' :: filled entries :=
  rfl

@[simp] theorem filled_map_some (text : List Char) : filled (text.map some) = text := by
  simp [filled]

@[simp] theorem length_filled (entries : List (Option Char)) :
    (filled entries).length = entries.length :=
  List.length_map _

/-! ## UTF-8 -/

theorem length_readUtf8From_le (pending : Option Pending) (bytes : List UInt8) :
    (readUtf8From pending bytes).length ≤ bytes.length + pending.toList.length := by
  induction pending, bytes using readUtf8From.induct <;> grind [readUtf8From]

theorem length_readUtf8_le (bytes : List UInt8) : (readUtf8 bytes).length ≤ bytes.length :=
  length_readUtf8From_le none bytes

/-- Whether a byte may stand behind the first one of a character. -/
def Continues (b : UInt8) : Prop :=
  0x80 ≤ b.toNat ∧ b.toNat ≤ 0xBF

/-- The bytes that a character beyond ASCII is written as. -/
inductive IsWritten (c : Char) : List UInt8 → Prop
  /-- A character of two bytes. -/
  | two {x y : UInt8} (hx : 0xC0 ≤ x.toNat) (hy : Continues y) (hc : c.toNat < 0x800) :
    IsWritten c [x, y]
  /-- A character of three bytes. -/
  | three {x y z : UInt8} (hx : 0xE0 ≤ x.toNat ∧ x.toNat < 0xF0) (hy : Continues y)
    (hz : Continues z)
    (hc : c.toNat = ((x.toNat - 0xE0) * 64 + (y.toNat - 0x80)) * 64 + (z.toNat - 0x80)) :
    IsWritten c [x, y, z]
  /-- A character of four bytes. -/
  | four {x y z w : UInt8} (hx : 0xF0 ≤ x.toNat) (hy : Continues y) (hz : Continues z)
    (hw : Continues w) (hc : 0x10000 ≤ c.toNat) : IsWritten c [x, y, z, w]

theorem admits_iff {p : Pending} {b : UInt8} :
    p.admits b = true ↔ p.low ≤ b.toNat ∧ b.toNat ≤ p.high := by
  rw [Pending.admits, Bool.and_eq_true, decide_eq_true_eq, decide_eq_true_eq]

/-- How a character goes on after its first bytes. -/
theorem filled_pending {p : Pending} {bytes : List UInt8} {c : Char} {more : List Char}
    (h : filled (readUtf8From (some p) bytes) = c :: more) (hc : c ≠ '\uFFFD') :
    ∃ b rest, bytes = b :: rest ∧ (p.low ≤ b.toNat ∧ b.toNat ≤ p.high) ∧
      match p.after with
      | 0 => c = Char.ofNat (p.extend b) ∧ filled (readUtf8 rest) = more
      | n + 1 => filled (readUtf8From (some ⟨p.extend b, n, 0x80, 0xBF⟩) rest) = c :: more := by
  cases bytes with
  | nil => exact absurd (List.cons.inj h).1.symm hc
  | cons b rest =>
    rw [readUtf8From] at h
    split at h
    case isTrue hadmits =>
      refine ⟨b, rest, rfl, admits_iff.mp hadmits, ?_⟩
      cases hafter : p.after with
      | zero =>
        rw [hafter, filled_some, List.cons.injEq] at h
        exact ⟨h.1.symm, h.2⟩
      | succ n =>
        rw [hafter] at h
        exact h
    case isFalse =>
      -- Whatever the byte is by itself, U+FFFD stands for what was pending.
      split at h <;> exact absurd (List.cons.inj h).1.symm hc

theorem lead_eq_whole {b : UInt8} {c : Char} (h : lead b = .whole c) :
    c = Char.ofNat b.toNat ∧ b.toNat < 0x80 := by
  simp only [lead, beq_iff_eq] at h
  split_ifs at h with hlow
  exact ⟨(Lead.whole.inj h).symm, hlow⟩

/-- What the first byte of a character says about the character. -/
theorem lead_eq_part {b : UInt8} {p : Pending} (h : lead b = .part p) :
    0x80 ≤ p.low ∧ p.high ≤ 0xBF ∧
      (p.after = 0 ∧ 0xC0 ≤ b.toNat ∧ p.value < 0x20 ∨
        p.after = 1 ∧ (0xE0 ≤ b.toNat ∧ b.toNat < 0xF0) ∧ p.value = b.toNat - 0xE0 ∨
        p.after = 2 ∧ 0xF0 ≤ b.toNat ∧ 0x10 ≤ p.value * 0x40 + (p.low - 0x80)) := by
  simp only [lead, beq_iff_eq] at h
  split_ifs at h
  all_goals
    simp only [Lead.part.injEq] at h
    subst h
    simp
  all_goals omega

/-- A character beyond ASCII can only have been written in its own bytes. -/
theorem readUtf8_eq_cons {bytes : List UInt8} {c : Char} {more : List Char}
    (h : filled (readUtf8 bytes) = c :: more) (hlow : 0x80 ≤ c.toNat) (hc : c ≠ '\uFFFD') :
    ∃ written rest, bytes = written ++ rest ∧ IsWritten c written ∧
      filled (readUtf8 rest) = more := by
  have htoNat (n : Nat) (hn : c = Char.ofNat n) : c.toNat = n := by
    have heq : c.toNat = if n.isValidChar then n else 0 := hn ▸ Char.toNat_ofNat n
    split at heq <;> omega
  cases bytes with
  | nil => cases h
  | cons x bytes =>
    rw [readUtf8, readUtf8From] at h
    cases hlead : lead x with
    | whole c' =>
      rw [hlead, filled_some, List.cons.injEq] at h
      obtain ⟨rfl, hascii⟩ := lead_eq_whole hlead
      exact absurd (htoNat _ h.1.symm) (by omega)
    | malformed =>
      rw [hlead] at h
      exact absurd (List.cons.inj h).1.symm hc
    | part p =>
      rw [hlead] at h
      obtain ⟨hl, hh, hp⟩ := lead_eq_part hlead
      obtain ⟨y, bytes, rfl, hy, h⟩ := filled_pending h hc
      have hy' : Continues y := ⟨by omega, by omega⟩
      obtain ⟨hafter, hx, hvalue⟩ | ⟨hafter, hx, hvalue⟩ | ⟨hafter, hx, hvalue⟩ := hp
      · rw [hafter] at h
        have hn : c.toNat = p.value * 64 + (y.toNat - 0x80) := htoNat _ h.1
        have hlt : c.toNat < 0x800 := by omega
        exact ⟨[x, y], bytes, rfl, .two hx hy' hlt, h.2⟩
      · rw [hafter] at h
        obtain ⟨z, rest, rfl, hz, h⟩ := filled_pending h hc
        have hn : c.toNat = (p.value * 64 + (y.toNat - 0x80)) * 64 + (z.toNat - 0x80) :=
          htoNat _ h.1
        rw [hvalue] at hn
        exact ⟨[x, y, z], rest, rfl, .three hx hy' hz hn, h.2⟩
      · rw [hafter] at h
        obtain ⟨z, rest, rfl, hz, h⟩ := filled_pending h hc
        obtain ⟨w, rest, rfl, hw, h⟩ := filled_pending h hc
        have hn : c.toNat = ((p.value * 64 + (y.toNat - 0x80)) * 64 + (z.toNat - 0x80)) * 64 +
            (w.toNat - 0x80) := htoNat _ h.1
        have hge : 0x10000 ≤ c.toNat := by omega
        exact ⟨[x, y, z, w], rest, rfl, .four hx hy' hz hw hge, h.2⟩

/-! ## UTF-16 -/

/-- How many units of UTF-16 a character has. -/
def units (c : Char) : Nat :=
  if c.toNat < 0x10000 then 1 else 2

theorem one_le_units (c : Char) : 1 ≤ units c := by
  grind [units]

theorem units_le_two (c : Char) : units c ≤ 2 := by
  grind [units]

/-- A unit by itself is a character of one unit. -/
theorem units_ofNat {u : Nat} (h : u < 0x10000) : units (Char.ofNat u) = 1 := by
  rw [units, Char.toNat_ofNat]
  split <;> grind

/-- A pair of surrogates is a character of two units. -/
theorem units_joinSurrogates {high low : Nat} (hh : isHighSurrogate high = true)
    (hl : isLowSurrogate low = true) : units (joinSurrogates high low) = 2 := by
  simp only [isHighSurrogate, isLowSurrogate, Bool.and_eq_true, decide_eq_true_eq] at hh hl
  have hvalid : (0x10000 + (high - 0xD800) * 0x400 + (low - 0xDC00)).isValidChar := by
    right
    omega
  rw [units, joinSurrogates, Char.toNat_ofNat, if_pos hvalid, if_neg (by omega)]

/-- How many units of UTF-16 a text has. -/
def unitCount (text : List Char) : Nat :=
  (text.map units).sum

@[simp] theorem unitCount_cons (c : Char) (text : List Char) :
    unitCount (c :: text) = units c + unitCount text :=
  List.sum_cons

section Utf16

variable {unit : UInt8 → UInt8 → Nat}

theorem readUtf16From_pair {high : Nat} {a b : UInt8} {rest : List UInt8}
    (h : isLowSurrogate (unit a b) = true) :
    readUtf16From unit (some high) (a :: b :: rest) =
      some (joinSurrogates high (unit a b)) :: readUtf16From unit none rest := by
  rw [readUtf16From, if_pos h]

/-- Every unit that is read takes two bytes, up to one byte at the end. -/
theorem units_le_length (hunit : ∀ a b, unit a b < 0x10000) (pending : Option Nat)
    (bytes : List UInt8) :
    2 * unitCount (filled (readUtf16From unit pending bytes)) ≤
      bytes.length + 1 + 2 * pending.toList.length := by
  have hone : units '\uFFFD' = 1 := @units_ofNat 0xFFFD (by omega)
  induction pending, bytes using readUtf16From.induct unit with
  | case1 | case2 | case3 | case4 => simp [readUtf16From, filled, unitCount, hone]
  | case5 a b rest u hh ih =>
    rw [readUtf16From, if_pos hh]
    simp only [List.length_cons, Option.toList_none, Option.toList_some, List.length_nil] at ih ⊢
    omega
  | case6 a b rest u hh hl ih =>
    rw [readUtf16From, if_neg hh, if_pos hl, filled_none, unitCount_cons, hone]
    simp only [List.length_cons] at ih ⊢
    omega
  | case7 a b rest u hh hl ih =>
    rw [readUtf16From, if_neg hh, if_neg hl, filled_some, unitCount_cons,
      units_ofNat (hunit a b)]
    simp only [List.length_cons] at ih ⊢
    omega
  | case8 high a b rest u hl ih =>
    rw [readUtf16From_pair hl, filled_some, unitCount_cons]
    have hc := units_le_two (joinSurrogates high (unit a b))
    simp only [List.length_cons, Option.toList_none, Option.toList_some, List.length_nil] at ih ⊢
    omega
  | case9 high a b rest u hl hh ih =>
    rw [readUtf16From, if_neg hl, if_pos hh, filled_none, unitCount_cons, hone]
    simp only [u, List.length_cons, Option.toList_some] at ih ⊢
    omega
  | case10 high a b rest u hl hh ih =>
    rw [readUtf16From, if_neg hl, if_neg hh, filled_none, filled_some, unitCount_cons,
      unitCount_cons, hone, units_ofNat (hunit a b)]
    simp only [List.length_cons, Option.toList_none, Option.toList_some, List.length_nil] at ih ⊢
    omega

/-- If every byte belongs to a character then there is a unit for every two bytes. -/
theorem length_le_units {pending : Option Nat} (hp : ∀ u ∈ pending, isHighSurrogate u = true)
    {bytes : List UInt8} {text : List Char}
    (h : readUtf16From unit pending bytes = text.map some) :
    bytes.length + 2 * pending.toList.length ≤ 2 * unitCount text := by
  induction pending, bytes using readUtf16From.induct unit generalizing text with
  | case1 => simp
  | case2 | case3 | case4 => cases text <;> cases h
  | case5 a b rest u hh ih =>
    rw [readUtf16From, if_pos hh] at h
    have hrest := ih (by simpa using hh) h
    simp only [List.length_cons, Option.toList_none, Option.toList_some, List.length_nil] at hrest ⊢
    omega
  | case6 a b rest u hh hl ih =>
    rw [readUtf16From, if_neg hh, if_pos hl] at h
    cases text <;> cases h
  | case7 a b rest u hh hl ih =>
    rw [readUtf16From, if_neg hh, if_neg hl] at h
    cases text with
    | nil => cases h
    | cons c cs =>
      have hrest := ih nofun (List.cons.inj h).2
      have hc := one_le_units c
      rw [unitCount_cons]
      simp only [List.length_cons] at hrest ⊢
      omega
  | case8 high a b rest u hl ih =>
    rw [readUtf16From_pair hl] at h
    cases text with
    | nil => cases h
    | cons c cs =>
      have hrest := ih nofun (List.cons.inj h).2
      have hc : units c = 2 := by
        rw [← Option.some.inj (List.cons.inj h).1]
        exact units_joinSurrogates (hp high rfl) hl
      rw [unitCount_cons, hc]
      simp only [List.length_cons, Option.toList_none, Option.toList_some, List.length_nil]
        at hrest ⊢
      omega
  | case9 high a b rest u hl hh ih =>
    rw [readUtf16From, if_neg hl, if_pos hh] at h
    cases text <;> cases h
  | case10 high a b rest u hl hh ih =>
    rw [readUtf16From, if_neg hl, if_neg hh] at h
    cases text <;> cases h

theorem length_readUtf16From_le (pending : Option Nat) (bytes : List UInt8) :
    (readUtf16From unit pending bytes).length ≤ bytes.length + pending.toList.length := by
  induction pending, bytes using readUtf16From.induct unit <;> grind [readUtf16From]

variable {bytes rest : List UInt8} {text : List Char}

/-- What is left when some bytes are dropped is too short for the same text. -/
theorem readUtf16_shorter_ne {unit' : UInt8 → UInt8 → Nat} (hunit : ∀ a b, unit' a b < 0x10000)
    (h : readUtf16From unit none bytes = text.map some) (hlength : rest.length + 2 ≤ bytes.length) :
    filled (readUtf16From unit' none rest) ≠ text := by
  rintro rfl
  have hfew := units_le_length hunit none rest
  have hmany := length_le_units (by simp) h
  simp only [Option.toList_none, List.length_nil] at hfew hmany
  omega

end Utf16

end HtmlQuery.Encoding
