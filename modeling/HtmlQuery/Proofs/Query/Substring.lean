import HtmlQuery.Proofs.Decimal.Rounding
import HtmlQuery.Query.Evaluation

/-!
# Ends of a text by the lengths of texts

The end of a text that is as long as another text can be cut out by positions: it begins at the
difference of the two lengths and one.  Positions are doubles, so this takes that the lengths are
counted exactly, and that rounding, which adds a half first, leaves the position as it is.  It does
up to `2 ^ 52`, and changes the next one (`substring_of_length_eq`).  Where the other text is the
longer one, the position lies below the first character, and all of the text is cut out.
-/

namespace HtmlQuery

open Decimal

/-! ## Rounding -/

/-- A half that is added to a smaller number is cut off again. -/
theorem isScaled_floor_add_half {x : Float} {n : Nat} (hx : IsScaled x n 0) (hn : n < 2 ^ 52) :
    IsScaled (floor (x + 0.5)) n 0 := by
  have hsmall : Short (n : Int) := by
    show n < 2 ^ 53
    omega
  have hdouble : Short ((n : Int) * 2 ^ 1) := by
    show ((n : Int) * 2 ^ 1).natAbs < 2 ^ 53
    omega
  have hscaled : scaled (n * 2 ^ 1) (-1) = scaled n 0 :=
    scaled_mul_pow hsmall hdouble (by decide)
  have hx' : IsScaled x (n * 2 ^ 1) (-1) := hx.trans hscaled.symm
  have hsum := hx'.add isScaled_half hdouble (by decide)
    (by show ((n : Int) * 2 ^ 1 + 1).natAbs < 2 ^ 53; omega) (by decide) (by decide)
  rw [show (n : Int) * 2 ^ 1 + 1 = (2 * n + 1 : Nat) by omega] at hsum
  exact isScaled_floor hsum (by omega)

/-- To `2 ^ 52` no half can be added.  The sum lies between two doubles, and the even one is that
number again. -/
theorem isScaled_wholeFrom_add_half {x : Float} (hx : IsScaled x (2 ^ 52 : Nat) 0) :
    IsScaled (x + 0.5) (2 ^ 52 : Nat) 0 := by
  show (Float.Model.pack (Float.Model.UnpackedFloat.add .binary64 x.toModel.unpack
    (0.5 : Float).toModel.unpack)).unpack = _
  rw [show x.toModel.unpack = scaled (2 ^ 52 : Nat) 0 from hx]
  rfl

/-- A whole number stays as it is when it is rounded. -/
theorem isScaled_roundHalfUp {x : Float} {n : Nat} (hx : IsScaled x n 0) (hn : n ≤ 2 ^ 52) :
    IsScaled (roundHalfUp x) n 0 := by
  have hspecial : (x.isNaN || x.isInf) = false := by
    show (x.toModel.unpack.isNaN || x.toModel.unpack.isInf) = false
    rw [show x.toModel.unpack = scaled n 0 from hx, scaled]
    split <;> rfl
  have hpos : ¬ x < 0 := by
    rw [hx.lt_iff (t := 0) isScaled_zero (by show n < 2 ^ 53; omega) (by decide)]
    omega
  rw [roundHalfUp]
  simp only [hspecial, hpos, decide_false, Bool.and_false, Bool.false_eq_true, ↓reduceIte]
  rcases Nat.lt_or_eq_of_le hn with hlt | rfl
  · exact isScaled_floor_add_half hx hlt
  · have hsum := isScaled_wholeFrom_add_half hx
    rwa [floor_of_le hsum le_rfl (by decide)]

/-- What is below zero stays so when it is rounded, even if digits are lost. -/
theorem hasSign_roundHalfUp {x : Float} {k : Int} (hx : IsScaled x k 0) (hk : Short k)
    (hneg : k < 0) : HasSign .negative (roundHalfUp x).toModel.unpack := by
  rw [roundHalfUp]
  split
  · rw [show x.toModel.unpack = scaled k 0 from hx, scaled, dif_neg hneg.ne]
    exact if_pos hneg
  · split
    · exact rfl
    · exact (hasSign_add_half hx hk hneg).floor

/-- A rounded whole number compares with positions as the number itself does. -/
theorem roundHalfUp_le_iff {x : Float} {k : Int} {position : Nat} (hx : IsScaled x k 0)
    (hk : Short k) (hk' : k ≤ 2 ^ 52) (hp : 1 ≤ position) (hp' : position < 2 ^ 53) :
    roundHalfUp x ≤ Float.ofNat position ↔ k ≤ position := by
  have hposition := isScaled_ofNat hp'
  rcases lt_or_ge k 0 with hneg | hnonneg
  · have h := (hasSign_roundHalfUp hx hk hneg).le hposition (by omega)
    exact iff_of_true h (by omega)
  · obtain ⟨n, rfl⟩ := Int.eq_ofNat_of_zero_le hnonneg
    rw [(isScaled_roundHalfUp hx (by omega)).le_iff (t := 0) hposition hk hp']
    simp

/-! ## Substrings -/

/-- From a position on everything is cut out. -/
theorem substringFrom_eq_drop {start : Float} {k : Int}
    (hstart : ∀ position : Nat, 1 ≤ position → position < 2 ^ 53 →
      (start ≤ Float.ofNat position ↔ k ≤ position))
    (cs : List Char) (position : Nat) (hp : 1 ≤ position) (hp' : position + cs.length ≤ 2 ^ 53) :
    substringFrom start (1 / 0) position cs = cs.drop (k - position).toNat := by
  induction cs generalizing position with
  | nil => rw [substringFrom, List.drop_nil]
  | cons c cs ih =>
    rw [List.length_cons] at hp'
    have hrest := ih (position + 1) (by omega) (by omega)
    have hbound : Float.ofNat position < 1 / 0 := (isScaled_ofNat (by omega)).lt_infinity
    simp only [substringFrom, hstart position hp (by omega), hbound, decide_true, Bool.and_true,
      decide_eq_true_eq, hrest]
    split
    next h => rw [show (k - position).toNat = 0 by omega,
      show (k - (position + 1 : Nat)).toNat = 0 by omega, List.drop_zero, List.drop_zero]
    next h => rw [show (k - position).toNat = (k - (position + 1 : Nat)).toNat + 1 by omega,
      List.drop_succ_cons]

/-- The end of a text that is as long as another text is that text if, and only if, the text ends
with it. -/
theorem substring_length_sub_length {text back : String} (ht : text.length < 2 ^ 53)
    (hb : back.length < 2 ^ 53) (h : text.length + 1 ≤ back.length + 2 ^ 52) :
    substring text
        (roundHalfUp (Float.ofNat text.length - Float.ofNat back.length + 1)) (1 / 0) = back ↔
      Text.endsWith text back = true := by
  have hdiff := (isScaled_ofNat ht).sub (isScaled_ofNat hb) ht hb
    (by show ((text.length : Int) - back.length).natAbs < 2 ^ 53; omega) (by decide) (by decide)
  have hstart := hdiff.add isScaled_one
    (by show ((text.length : Int) - back.length).natAbs < 2 ^ 53; omega) (by decide)
    (by show ((text.length : Int) - back.length + 1).natAbs < 2 ^ 53; omega) (by decide) (by decide)
  rw [substring, substringFrom_eq_drop (fun position hp hp' => roundHalfUp_le_iff hstart
    (by show ((text.length : Int) - back.length + 1).natAbs < 2 ^ 53; omega) (by omega) hp hp')
    text.toList 1 (Nat.le_refl 1) (by rw [String.length_toList]; omega)]
  have hcut : ((text.length : Int) - back.length + 1 - (1 : Nat)).toNat =
      text.length - back.length := by omega
  rw [Text.endsWith, List.isSuffixOf_iff_suffix, List.suffix_iff_eq_drop, hcut,
    String.length_toList, String.length_toList, ← String.toList_inj, String.toList_ofList, eq_comm]

/-- The position behind `2 ^ 52` is rounded to the even number above it.  If the last character of
a text stands there, nothing is cut out. -/
theorem substring_of_length_eq {text : String} (h : text.length = 2 ^ 52 + 1) :
    substring text (roundHalfUp (Float.ofNat text.length - Float.ofNat 1 + 1)) (1 / 0) = "" := by
  have hstart : IsScaled (roundHalfUp (Float.ofNat (2 ^ 52 + 1) - Float.ofNat 1 + 1))
      (2 ^ 52 + 2 : Nat) 0 := rfl
  have hlist : text.toList.length = 2 ^ 52 + 1 := by rw [String.length_toList, h]
  have hle (position : Nat) (hp : position < 2 ^ 53) :
      roundHalfUp (Float.ofNat (2 ^ 52 + 1) - Float.ofNat 1 + 1) ≤ Float.ofNat position ↔
        ((2 ^ 52 + 2 : Nat) : Int) ≤ position := by
    rw [hstart.le_iff (t := 0) (isScaled_ofNat hp) (by decide) hp]
    simp
  rw [h, substring, substringFrom_eq_drop (fun position _ hp => hle position hp) text.toList 1
    (Nat.le_refl 1) (by rw [hlist]; decide), List.drop_eq_nil_of_le (by rw [hlist]; decide)]

end HtmlQuery
