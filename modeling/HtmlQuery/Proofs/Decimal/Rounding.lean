import HtmlQuery.Proofs.Decimal.Scaled

/-!
# Whole numbers among doubles

Natural numbers of at most 53 digits are doubles (`isScaled_ofNat`), and `floor` takes a half more
than such a number back to it (`isScaled_floor`).  Where digits are lost, signs are not: `HasSign`
goes through storing, sums and `floor`.
-/

namespace HtmlQuery.Decimal

open Float.Model Float.Model.UnpackedFloat

/-! ## Conversions -/

theorem isScaled_zero : IsScaled 0 0 0 :=
  rfl

theorem isScaled_one : IsScaled 1 1 0 :=
  rfl

theorem isScaled_half : IsScaled 0.5 1 (-1) :=
  rfl

/-- From this double on all are whole. -/
theorem isScaled_wholeFrom : IsScaled 4503599627370496 1 52 :=
  rfl

theorem isScaled_toFloat {w : UInt64} (h : w.toNat < 2 ^ 53) : IsScaled w.toFloat w.toNat 0 := by
  have hfits : Short (w.toNat : Int) := h
  show (Float.Model.pack (normalize .binary64 w.toNat 0 .positive)).unpack = _
  rw [normalize_eq hfits (by decide), unpack_pack_scaled hfits (by decide) (by decide)]

/-- One as a factor changes nothing. -/
theorem IsScaled.mul_one {x y : Float} {n : Nat} (hx : IsScaled x n 0) (hy : IsScaled y 1 0)
    (hn : n < 2 ^ 53) : IsScaled (x * y) n 0 := by
  show (Float.Model.pack (UnpackedFloat.mul .binary64 x.toModel.unpack y.toModel.unpack)).unpack = _
  rw [show x.toModel.unpack = scaled n 0 from hx, show y.toModel.unpack = scaled 1 0 from hy]
  rcases Nat.eq_zero_or_pos n with rfl | hpos
  · rfl
  · have hmul : UnpackedFloat.mul .binary64 (scaled n 0) (scaled 1 0) = scaled n 0 := by
      have hmissing := missing_add_log2 hpos hn
      have hround := roundWithAccuracy_mul_pow (s := .positive) (m := n * 2 ^ missing n) (t := 52)
        (e := 0 - missing n + (0 - 52)) (by rw [log2_mul_pow hpos]; omega)
        (Nat.mul_pos hpos (Nat.two_pow_pos _)) (by omega)
      have hone : scaled 1 0 = .finite .positive (2 ^ 52) (0 - 52) (by decide) := rfl
      rw [hone]
      simp only [scaled, signOf, Int.natCast_eq_zero, hpos.ne', ↓reduceDIte, Int.natAbs_natCast,
        UnpackedFloat.mul, (Int.natCast_nonneg n).not_gt, ↓reduceIte]
      refine hround.trans ?_
      congr 1
      omega
    rw [hmul, unpack_pack_scaled (by exact hn) (by decide) (by decide)]

/-- Natural numbers of at most 53 digits are doubles. -/
theorem isScaled_ofNat {n : Nat} (h : n < 2 ^ 53) : IsScaled (Float.ofNat n) n 0 := by
  have hw : (UInt64.ofNat n).toNat = n := by
    rw [UInt64.toNat_ofNat']
    exact Nat.mod_eq_of_lt (by omega)
  have hfloat := isScaled_toFloat (w := .ofNat n) (by rw [hw]; exact h)
  rw [hw] at hfloat
  show IsScaled (Float.ofScientific n false 0) n 0
  rw [Float.ofScientific, dif_pos ⟨h, by decide⟩]
  have hone : Float.exactlyRepresentablePowersOfTen[0] = Float.ofBits 0x3FF0000000000000 := rfl
  rw [hone]
  exact hfloat.mul_one rfl h

/-! ## Cutting off a half -/

theorem IsScaled.abs {x : Float} {n : Nat} {e : Int} (hx : IsScaled x n e) (hn : Short n)
    (he : -1022 ≤ e) (he' : e ≤ 900) : IsScaled x.abs n e := by
  show (Float.Model.pack x.toModel.unpack.abs).unpack = _
  have habs : (scaled n e).abs = scaled n e := by
    rw [scaled]
    split
    next => rfl
    next =>
      rw [signOf, if_neg (by omega)]
      rfl
  rw [show x.toModel.unpack = scaled n e from hx, habs, unpack_pack_scaled hn he he']

theorem mantissa_shiftRight (em : ExtendedMantissa) (t : Nat) :
    (em >>> t).mantissa = em.mantissa / 2 ^ t := by
  induction t with
  | zero =>
    rw [pow_zero, Nat.div_one]
    rfl
  | succ t ih =>
    show (em >>> t).mantissa / 2 = _
    rw [ih, Nat.div_div_eq_div_mul, ← pow_succ]

/-- The fraction is cut off when a double is read as a word. -/
theorem toNat_toUInt64_of_half {x : Float} {n : Nat} (hx : IsScaled x (2 * n + 1 : Nat) (-1))
    (hn : 2 * n + 1 < 2 ^ 53) : x.toUInt64.toNat = n := by
  have hcut : (scaled (2 * n + 1 : Nat) (-1)).toInt 0 (UInt64.size - 1) = n := by
    simp only [scaled, signOf, Int.natCast_eq_zero, Nat.succ_ne_zero, ↓reduceDIte,
      (Int.natCast_nonneg _).not_gt, ↓reduceIte, toInt, roundToInt, decreaseExponent,
      shiftToExponent, mantissa_shiftRight, Sign.apply, Int.natAbs_natCast]
    have hnone : (-1 - (missing (2 * n + 1) : Int)).toNat = 0 := by omega
    have hamount : (0 - (-1 - (missing (2 * n + 1) : Int))).toNat = missing (2 * n + 1) + 1 := by
      omega
    simp only [Int.sub_zero, hnone, Nat.shiftLeft_zero, Nat.cast_zero, hamount]
    show (((2 * n + 1) * 2 ^ missing (2 * n + 1) / 2 ^ (missing (2 * n + 1) + 1) : Nat) : Int) = n
    rw [pow_succ, ← Nat.div_div_eq_div_mul, Nat.mul_div_cancel _ (Nat.two_pow_pos _)]
    omega
  show (UInt64.ofNatClamp (x.toModel.unpack.toInt 0 (UInt64.size - 1)).toNat).toNat = n
  rw [show x.toModel.unpack = scaled (2 * n + 1 : Nat) (-1) from hx, hcut, Int.toNat_natCast,
    UInt64.ofNatClamp_eq_ofNat n (by simp [UInt64.size]; omega), UInt64.toNat_ofNat']
  exact Nat.mod_eq_of_lt (by omega)

/-- What is a half more than a whole number is cut down to that. -/
theorem isScaled_floor {x : Float} {n : Nat} (hx : IsScaled x (2 * n + 1 : Nat) (-1))
    (hn : 2 * n + 1 < 2 ^ 53) : IsScaled (floor x) n 0 := by
  have hfits : Short ((2 * n + 1 : Nat) : Int) := hn
  have hsize := hx.abs hfits (by decide) (by decide)
  have hsmall : x.abs < 4503599627370496 := by
    rw [hsize.lt_iff (t := 53) isScaled_wholeFrom hfits (by decide)]
    omega
  have hpos : 0 < x := by
    rw [IsScaled.lt_iff (x := 0) (k := 0) (e := -1) (t := 0) rfl hx (by decide) hfits]
    omega
  have hwhole := toNat_toUInt64_of_half hsize hn
  have h := isScaled_toFloat (w := x.abs.toUInt64) (by omega)
  rw [hwhole] at h
  simp only [floor, hsmall, hpos, ↓reduceIte]
  exact h

/-- From `2 ^ 52` on doubles are whole, and `floor` leaves them. -/
theorem floor_of_le {x : Float} {n : Nat} (hx : IsScaled x n 0) (hle : 2 ^ 52 ≤ n)
    (hn : n < 2 ^ 53) : floor x = x := by
  have hsize := hx.abs hn (by decide) (by decide)
  have hlarge : ¬ x.abs < 4503599627370496 := by
    rw [hsize.lt_iff (t := 52) isScaled_wholeFrom hn (by decide)]
    omega
  simp only [floor, hlarge, ↓reduceIte]

/-! ## Signs -/

/-- Whether a double has a sign, and this one. -/
def HasSign (s : Sign) : UnpackedFloat → Prop
  | .zero s' => s' = s
  | .finite s' _ _ _ => s' = s
  | .infinity s' => s' = s
  | .notANumber => False

/-- Storing a double keeps its sign, whatever becomes of its digits. -/
theorem HasSign.unpack_pack {s : Sign} {u : UnpackedFloat} (h : HasSign s u) :
    HasSign s (Float.Model.pack u).unpack := by
  have key : ∀ (e : BitVec 11) (m : BitVec 52), e ≠ -1#11 →
      HasSign s (UnpackedFloat.unpack .binary64 (packComponents .binary64 s e m)) := by
    intro e m he
    simp only [UnpackedFloat.unpack, unpackExponent_packComponents, unpackMantissa_packComponents,
      ofBitVec_unpackSign_packComponents, if_neg he]
    split
    · split <;> rfl
    · rfl
  show HasSign s (UnpackedFloat.unpack .binary64 (UnpackedFloat.pack .binary64 u))
  cases u with
  | notANumber => exact h.elim
  | zero s' =>
    obtain rfl : s' = s := h
    exact key _ _ (by decide)
  | infinity s' =>
    obtain rfl : s' = s := h
    cases s' <;> rfl
  | finite s' m e hm =>
    obtain rfl : s' = s := h
    simp only [UnpackedFloat.pack]
    split
    · cases s' <;> rfl
    next hsmall =>
      split
      · refine key _ _ fun he => hsmall ?_
        have hmod := congrArg BitVec.toNat he
        simp only [BitVec.toNat_ofNat] at hmod
        have := Nat.mod_le (e + Format.binary64.exponentBias + 52).toNat (2 ^ 11)
        have hones : (-1#11).toNat = 2 ^ 11 - 1 := rfl
        omega
      · exact key _ _ (by decide)

theorem hasSign_round {s : Sign} {m : Nat} {e : Int} :
    HasSign s (UnpackedFloat.round .binary64 s m e) := by
  simp only [UnpackedFloat.round, roundWithAccuracy]
  split <;> rfl

theorem hasSign_normalize_of_nonneg {k e : Int} (hk : 0 ≤ k) :
    HasSign .positive (normalize .binary64 k e .positive) := by
  rw [UnpackedFloat.normalize]
  split
  next h => exact absurd (compare_lt_iff_lt.mp h) hk.not_gt
  next => rfl
  next => exact hasSign_round

theorem hasSign_normalize_of_neg {k e : Int} (hk : k < 0) :
    HasSign .negative (normalize .binary64 k e .positive) := by
  rw [UnpackedFloat.normalize, compare_lt_iff_lt.mpr hk]
  exact hasSign_round

theorem HasSign.neg {s : Sign} {x : Float} (h : HasSign s x.toModel.unpack) :
    HasSign (-s) (-x).toModel.unpack := by
  refine HasSign.unpack_pack (u := x.toModel.unpack.neg) ?_
  cases hx : x.toModel.unpack with
  | notANumber =>
    rw [hx] at h
    exact h
  | _ =>
    rw [hx] at h
    exact congrArg _ h

/-- One more than what is not below zero is not below zero. -/
theorem HasSign.add_one {x : Float} (h : HasSign .positive x.toModel.unpack) :
    HasSign .positive (x + 1).toModel.unpack := by
  refine HasSign.unpack_pack (u := UnpackedFloat.add .binary64 x.toModel.unpack (scaled 1 0)) ?_
  cases hx : x.toModel.unpack with
  | notANumber =>
    rw [hx] at h
    exact h
  | infinity s =>
    rw [hx] at h
    exact h
  | zero s => rfl
  | finite s m e hm =>
    rw [hx] at h
    obtain rfl : s = .positive := h
    exact hasSign_normalize_of_nonneg (Int.add_nonneg (Int.natCast_nonneg _) (Int.natCast_nonneg _))

/-- What is below zero stays so when it is cut down. -/
theorem HasSign.floor {x : Float} (h : HasSign .negative x.toModel.unpack) :
    HasSign .negative (floor x).toModel.unpack := by
  have hpos : ¬ 0 < x := by
    intro hlt
    have hlt : (UnpackedFloat.zero .positive).compare x.toModel.unpack = some .lt :=
      lt_iff_compare.mp hlt
    cases hx : x.toModel.unpack with
    | notANumber =>
      rw [hx] at h
      exact h
    | _ =>
      rw [hx] at h hlt
      obtain rfl := h
      cases hlt
  have hwhole : HasSign .positive x.abs.toUInt64.toFloat.toModel.unpack :=
    HasSign.unpack_pack (hasSign_normalize_of_nonneg (Int.natCast_nonneg _))
  simp only [Decimal.floor, if_neg hpos]
  split
  · split
    · exact h
    · exact hwhole.add_one.neg
  · exact h

/-- A half more than a whole number below zero is below zero, even if digits are lost. -/
theorem hasSign_add_half {x : Float} {k : Int} (hx : IsScaled x k 0) (hk : Short k) (hneg : k < 0) :
    HasSign .negative (x + 0.5).toModel.unpack := by
  refine HasSign.unpack_pack
    (u := UnpackedFloat.add .binary64 x.toModel.unpack (0.5 : Float).toModel.unpack) ?_
  rw [show x.toModel.unpack = scaled k 0 from hx,
    show (0.5 : Float).toModel.unpack = scaled 1 (-1) from isScaled_half]
  have hmissing := missing_add_log2 (Int.natAbs_pos.mpr hneg.ne) hk
  have hleft := apply_decreaseExponent (k := k) (e := 0) (d := 53) (by omega)
  have hmin : min (0 - (missing k.natAbs : Int)) (-1 - missing (1 : Int).natAbs) =
      0 - (53 : Nat) := by
    rw [show missing (1 : Int).natAbs = 52 from rfl]
    omega
  have hright : (signOf 1).apply ((decreaseExponent ((1 : Int).natAbs * 2 ^ missing (1 : Int).natAbs)
      (-1 - missing (1 : Int).natAbs) (0 - (53 : Nat))).1 : Nat) = 1 * 2 ^ 52 :=
    apply_decreaseExponent (k := 1) (e := -1) (d := 52) (by decide)
  simp only [scaled, hneg.ne, one_ne_zero, ↓reduceDIte, UnpackedFloat.add, hmin]
  rw [hleft, hright]
  exact hasSign_normalize_of_neg (by omega)

theorem HasSign.le {x y : Float} {k : Int} (hx : HasSign .negative x.toModel.unpack)
    (hy : IsScaled y k 0) (hk : 0 < k) : x ≤ y := by
  rw [le_iff_compare, show y.toModel.unpack = scaled k 0 from hy, scaled, dif_neg hk.ne', signOf,
    if_neg hk.not_gt]
  cases h : x.toModel.unpack with
  | notANumber =>
    rw [h] at hx
    exact hx.elim
  | _ =>
    rw [h] at hx
    obtain rfl := hx
    exact ⟨.lt, rfl, rfl⟩

/-- Every number is less than what one divided by zero gives. -/
theorem IsScaled.lt_infinity {x : Float} {k e : Int} (hx : IsScaled x k e) : x < 1 / 0 := by
  have hinf : (1 / 0 : Float).toModel.unpack = .infinity .positive := rfl
  rw [lt_iff_compare, show x.toModel.unpack = scaled k e from hx, hinf, scaled]
  split
  · rfl
  · rw [signOf]
    split <;> rfl

end HtmlQuery.Decimal
