import HtmlQuery.Decimal.Binary
import Mathlib

/-!
# Exact doubles

`scaled k e` is the double `k * 2 ^ e` taken apart, its mantissa filled up to 53 digits.  It exists
for every integer `k` of at most 53 digits, and `IsScaled x k e` says that `x` is this double.

Sums, differences and comparisons of such doubles are those of the integers (`IsScaled.add`,
`IsScaled.sub`, `IsScaled.lt_iff`), as long as these keep to 53 digits.  All of it rests on
`round_mul_pow`: nothing is lost when a number is rounded whose digits beyond the 53rd are zeros.
-/

namespace HtmlQuery.Decimal

open Float.Model Float.Model.UnpackedFloat

/-- The integers of at most 53 digits. -/
def Short (k : Int) : Prop :=
  k.natAbs < 2 ^ 53

instance : DecidablePred Short :=
  fun k => inferInstanceAs (Decidable (k.natAbs < 2 ^ 53))

/-- How many digits a mantissa is short of 53. -/
def missing (m : Nat) : Nat :=
  52 - m.log2

/-- The sign of an integer. -/
def signOf (k : Int) : Sign :=
  if k < 0 then .negative else .positive

/-- The double `k * 2 ^ e`, taken apart. -/
def scaled (k e : Int) : UnpackedFloat :=
  if h : k = 0 then .zero .positive
  else .finite (signOf k) (k.natAbs * 2 ^ missing k.natAbs) (e - missing k.natAbs)
    (Nat.mul_pos (Int.natAbs_pos.mpr h) (Nat.two_pow_pos _))

/-- A double is `k * 2 ^ e`. -/
def IsScaled (x : Float) (k e : Int) : Prop :=
  x.toModel.unpack = scaled k e

theorem log2_mul_pow {m : Nat} (h : 0 < m) (j : Nat) : (m * 2 ^ j).log2 = m.log2 + j := by
  rw [Nat.log2_eq_iff (by positivity)]
  have hm := (Nat.log2_eq_iff h.ne').mp rfl
  constructor
  · rw [pow_add]
    exact Nat.mul_le_mul_right _ hm.1
  · rw [show m.log2 + j + 1 = m.log2 + 1 + j by omega, pow_add]
    exact Nat.mul_lt_mul_of_pos_right hm.2 (Nat.two_pow_pos j)

theorem missing_add_log2 {m : Nat} (h : 0 < m) (hm : m < 2 ^ 53) : missing m + m.log2 = 52 := by
  have := (Nat.log2_lt h.ne').mpr hm
  rw [missing]
  omega

/-! ## Rounding -/

/-- Shifting digits out that are zeros is exact. -/
theorem shiftRight_mul_pow (m t : Nat) :
    (ExtendedMantissa.mk (m * 2 ^ t) false false) >>> t = ⟨m, false, false⟩ := by
  induction t generalizing m with
  | zero =>
    rw [pow_zero, Nat.mul_one]
    rfl
  | succ t ih =>
    show ExtendedMantissa.shiftRightOne
      ((ExtendedMantissa.mk (m * 2 ^ (t + 1)) false false) >>> t) = _
    rw [show m * 2 ^ (t + 1) = (m * 2) * 2 ^ t by ring, ih]
    simp [ExtendedMantissa.shiftRightOne]

theorem targetExponent_eq {m : Nat} {e : Int} (h : -1022 ≤ m.log2 + e) :
    Format.binary64.targetExponent (totalExponent m e) = m.log2 + e - 52 := by
  simp only [Format.targetExponent, totalExponent, Format.mantissaBits, Format.minExponent]
  omega

theorem shiftToTargetExponent_full {m : Nat} {e : Int} (hm : m.log2 = 52) (he : -1074 ≤ e) :
    shiftToTargetExponent .binary64 m e .exact = (⟨m, false, false⟩, e) := by
  rw [shiftToTargetExponent, targetExponent_eq (by omega), shiftToExponent, hm]
  simp only [show ((52 : Nat) + e - 52 - e : Int).toNat = 0 by omega]
  exact Prod.ext rfl (Int.add_zero e)

/-- A mantissa of 53 digits with zeros behind it is rounded to these digits. -/
theorem roundWithAccuracy_mul_pow {s : Sign} {m t : Nat} {e : Int} (hm : m.log2 = 52) (hp : 0 < m)
    (he : -1074 ≤ e + t) :
    roundWithAccuracy .binary64 s (m * 2 ^ t) e .exact = .finite s m (e + t) hp := by
  have hlog := log2_mul_pow hp t
  have hshift : shiftToTargetExponent .binary64 (m * 2 ^ t) e .exact =
      (⟨m, false, false⟩, e + t) := by
    rw [shiftToTargetExponent, targetExponent_eq (by omega), shiftToExponent]
    simp only [show ((m * 2 ^ t).log2 + e - 52 - e : Int).toNat = t by omega]
    exact Prod.ext (shiftRight_mul_pow m t) rfl
  have hrounded : (ExtendedMantissa.mk m false false).roundedMantissa = m := rfl
  rw [roundWithAccuracy, hshift]
  simp only [hrounded, shiftToTargetExponent_full hm he, dif_neg hp.ne']

/-- Nothing is lost when a number is rounded whose digits beyond the 53rd are zeros. -/
theorem round_mul_pow {s : Sign} {m j : Nat} {e : Int} (hp : 0 < m) (hm : m < 2 ^ 53)
    (he : -1022 ≤ e + j) :
    UnpackedFloat.round .binary64 s (m * 2 ^ j) e =
      .finite s (m * 2 ^ missing m) (e + j - missing m)
        (Nat.mul_pos hp (Nat.two_pow_pos _)) := by
  have hlog := log2_mul_pow hp j
  have hmissing := missing_add_log2 hp hm
  have hfull : (m * 2 ^ missing m).log2 = 52 := by
    rw [log2_mul_pow hp]
    omega
  have hpos : 0 < m * 2 ^ missing m := Nat.mul_pos hp (Nat.two_pow_pos _)
  rw [UnpackedFloat.round, targetExponent_eq (by omega), decreaseExponent]
  simp only [Nat.shiftLeft_eq, Nat.mul_assoc, ← pow_add]
  rcases Nat.le_total j (missing m) with hj | hj
  · -- The mantissa is filled up.
    have hamount : (e - ((m * 2 ^ j).log2 + e - 52)).toNat = missing m - j := by omega
    have h := roundWithAccuracy_mul_pow (s := s) (t := 0) (e := e - (missing m - j : Nat)) hfull
      hpos (by omega)
    rw [pow_zero, Nat.mul_one] at h
    rw [hamount, show j + (missing m - j) = missing m by omega, h]
    congr 1
    omega
  · -- The mantissa is too long, by zeros.
    have hamount : (e - ((m * 2 ^ j).log2 + e - 52)).toNat = 0 := by omega
    have h := roundWithAccuracy_mul_pow (s := s) (t := j - missing m) (e := e) hfull hpos (by omega)
    rw [Nat.mul_assoc, ← pow_add, show missing m + (j - missing m) = j by omega] at h
    rw [hamount, Nat.add_zero]
    simp only [Nat.cast_zero, Int.sub_zero]
    rw [h]
    congr 1
    omega

theorem normalize_mul_pow {k e : Int} {j : Nat} (hk : Short k) (he : -1022 ≤ e + j) :
    normalize .binary64 (k * 2 ^ j) e .positive = scaled k (e + j) := by
  have hpow : (0 : Int) < 2 ^ j := by positivity
  have habs : (k * 2 ^ j).natAbs = k.natAbs * 2 ^ j := by
    rw [Int.natAbs_mul, Int.natAbs_pow]
    rfl
  simp only [UnpackedFloat.normalize, scaled, signOf]
  rcases lt_trichotomy k 0 with hneg | rfl | hpos
  · have hlt : k * 2 ^ j < 0 := Int.mul_neg_of_neg_of_pos hneg hpow
    simp only [compare_lt_iff_lt.mpr hlt, hneg.ne, hneg, ↓reduceDIte, ↓reduceIte]
    rw [show (-(k * 2 ^ j)).toNat = k.natAbs * 2 ^ j by omega]
    exact round_mul_pow (Int.natAbs_pos.mpr hneg.ne) hk he
  · simp
  · have hlt : 0 < k * 2 ^ j := Int.mul_pos hpos hpow
    simp only [compare_gt_iff_gt.mpr hlt, hpos.ne', hpos.not_gt, ↓reduceDIte, ↓reduceIte]
    rw [show (k * 2 ^ j).toNat = k.natAbs * 2 ^ j by omega]
    exact round_mul_pow (Int.natAbs_pos.mpr hpos.ne') hk he

theorem normalize_eq {k e : Int} (hk : Short k) (he : -1022 ≤ e) :
    normalize .binary64 k e .positive = scaled k e := by
  simpa using normalize_mul_pow (j := 0) hk (by simpa using he)

/-- Powers of two may stand in the number or in the exponent. -/
theorem scaled_mul_pow {k e : Int} {j : Nat} (hk : Short k) (h : Short (k * 2 ^ j))
    (he : -1022 ≤ e) : scaled (k * 2 ^ j) e = scaled k (e + j) := by
  rw [← normalize_eq h he, normalize_mul_pow hk (by omega)]

/-! ## Bits -/

theorem ofBitVec_unpackSign_packComponents {spec : Format} {s : Sign} {e : BitVec spec.exponentBits}
    {m : BitVec spec.mantissaBitsWithoutImplicit} :
    Sign.ofBitVec (unpackSign (packComponents spec s e m)) = s := by
  have h : unpackSign (packComponents spec s e m) = s.toBitVec := by
    ext i hi
    obtain rfl : i = 0 := by omega
    simp [unpackSign, packComponents, BitVec.getLsbD_eq_getElem, BitVec.getLsbD_append,
      BitVec.getElem_append]
  rw [h]
  cases s <;> rfl

/-- A double with a mantissa of 53 digits is not changed by storing it. -/
theorem unpack_pack_full {s : Sign} {m : Nat} {e : Int} {hp : 0 < m} (hm : m.log2 = 52)
    (he : -1074 ≤ e) (he' : e ≤ 900) :
    (Float.Model.pack (.finite s m e hp)).unpack = .finite s m e hp := by
  obtain ⟨hlow, hhigh⟩ := (Nat.log2_eq_iff hp.ne').mp hm
  obtain ⟨b, hb⟩ : ∃ b : Nat, e + 1023 + 52 = b := ⟨(e + 1023 + 52).toNat, by omega⟩
  have hexp : (BitVec.ofNat 11 b).toNat = b := by
    rw [BitVec.toNat_ofNat, Nat.mod_eq_of_lt (by omega)]
  have hmant : (1#1 ++ BitVec.ofNat 52 m).toNat = m := by
    rw [BitVec.toNat_append, BitVec.toNat_ofNat, BitVec.toNat_ofNat, ← Nat.shiftLeft_add_eq_or_of_lt
      (Nat.mod_lt _ (Nat.two_pow_pos 52)), Nat.shiftLeft_eq]
    omega
  show UnpackedFloat.unpack .binary64 (UnpackedFloat.pack .binary64 (.finite s m e hp)) = _
  simp only [UnpackedFloat.pack, Format.exponentBias, Format.mantissaBits, hm]
  norm_num
  rw [if_neg (by omega)]
  simp only [UnpackedFloat.unpack, unpackExponent_packComponents, unpackMantissa_packComponents,
    ofBitVec_unpackSign_packComponents, hb, Int.toNat_natCast]
  rw [if_neg, if_neg]
  · simp only [hexp, hmant, Format.exponentBias]
    congr 1
    norm_num
    omega
  · intro h
    have := congrArg BitVec.toNat h
    rw [hexp] at this
    simp at this
    omega
  · intro h
    have := congrArg BitVec.toNat h
    rw [hexp] at this
    simp at this
    omega

theorem unpack_pack_scaled {k e : Int} (hk : Short k) (he : -1022 ≤ e) (he' : e ≤ 900) :
    (Float.Model.pack (scaled k e)).unpack = scaled k e := by
  rw [scaled]
  split
  next => rfl
  next h =>
    have hmissing := missing_add_log2 (Int.natAbs_pos.mpr h) hk
    refine unpack_pack_full ?_ (by omega) (by omega)
    rw [log2_mul_pow (Int.natAbs_pos.mpr h)]
    omega

/-! ## Sums and differences -/

/-- The mantissa of a double with its sign, written with smaller exponents. -/
theorem apply_decreaseExponent {k e : Int} {d : Nat} (hd : missing k.natAbs ≤ d) :
    (signOf k).apply
        ((decreaseExponent (k.natAbs * 2 ^ missing k.natAbs) (e - missing k.natAbs) (e - d)).1 : Nat) =
      k * 2 ^ d := by
  have hamount : (e - missing k.natAbs - (e - d)).toNat = d - missing k.natAbs := by omega
  rw [decreaseExponent, hamount, Nat.shiftLeft_eq, Nat.mul_assoc, ← pow_add,
    show missing k.natAbs + (d - missing k.natAbs) = d by omega, signOf]
  split
  next h =>
    simp only [Sign.apply, Nat.cast_mul, Nat.cast_pow, Nat.cast_ofNat]
    rw [show (k.natAbs : Int) = -k by omega]
    ring
  next h =>
    simp only [Sign.apply, Nat.cast_mul, Nat.cast_pow, Nat.cast_ofNat]
    rw [show (k.natAbs : Int) = k by omega]

theorem add_scaled {k l e : Int} (h : Short (k + l)) (hl : Short l) (hk : Short k) (he : -900 ≤ e) :
    UnpackedFloat.add .binary64 (scaled k e) (scaled l e) = scaled (k + l) e := by
  rcases eq_or_ne k 0 with rfl | hk0
  · rcases eq_or_ne l 0 with rfl | hl0
    · rfl
    · simp [scaled, hl0, UnpackedFloat.add]
  · rcases eq_or_ne l 0 with rfl | hl0
    · simp [scaled, hk0, UnpackedFloat.add]
    · have hdk := missing_add_log2 (Int.natAbs_pos.mpr hk0) hk
      have hdl := missing_add_log2 (Int.natAbs_pos.mpr hl0) hl
      set d := max (missing k.natAbs) (missing l.natAbs)
      have hmin : min (e - missing k.natAbs) (e - missing l.natAbs) = e - (d : Int) := by omega
      have hleft := apply_decreaseExponent (e := e) (d := d) (k := k) (le_max_left _ _)
      have hright := apply_decreaseExponent (e := e) (d := d) (k := l) (le_max_right _ _)
      simp only [scaled, hk0, hl0, ↓reduceDIte, UnpackedFloat.add, hmin]
      rw [hleft, hright, ← Int.add_mul, normalize_mul_pow h (by omega)]
      simp [scaled]

theorem sub_scaled {k l e : Int} (h : Short (k - l)) (hl : Short l) (hk : Short k) (he : -900 ≤ e) :
    UnpackedFloat.sub .binary64 (scaled k e) (scaled l e) = scaled (k - l) e := by
  rcases eq_or_ne k 0 with rfl | hk0
  · rcases eq_or_ne l 0 with rfl | hl0
    · rfl
    · have hsign : signOf (-l) = -signOf l := by
        rcases lt_or_gt_of_ne hl0 with hneg | hpos
        · rw [signOf, signOf, if_pos hneg, if_neg (by omega)]
          rfl
        · rw [signOf, signOf, if_neg hpos.not_gt, if_pos (by omega)]
          rfl
      simp [scaled, hl0, UnpackedFloat.sub, hsign]
  · rcases eq_or_ne l 0 with rfl | hl0
    · simp [scaled, hk0, UnpackedFloat.sub]
    · have hdk := missing_add_log2 (Int.natAbs_pos.mpr hk0) hk
      have hdl := missing_add_log2 (Int.natAbs_pos.mpr hl0) hl
      set d := max (missing k.natAbs) (missing l.natAbs)
      have hmin : min (e - missing k.natAbs) (e - missing l.natAbs) = e - (d : Int) := by omega
      have hleft := apply_decreaseExponent (e := e) (d := d) (k := k) (le_max_left _ _)
      have hright := apply_decreaseExponent (e := e) (d := d) (k := l) (le_max_right _ _)
      simp only [scaled, hk0, hl0, ↓reduceDIte, UnpackedFloat.sub, hmin]
      rw [hleft, hright, ← Int.sub_mul, normalize_mul_pow h (by omega)]
      simp [scaled]

section Sums

variable {x y : Float} {k l e : Int}

theorem IsScaled.add (hx : IsScaled x k e) (hy : IsScaled y l e) (hk : Short k) (hl : Short l)
    (h : Short (k + l)) (he : -900 ≤ e) (he' : e ≤ 900) : IsScaled (x + y) (k + l) e := by
  show (Float.Model.pack (UnpackedFloat.add .binary64 x.toModel.unpack y.toModel.unpack)).unpack = _
  rw [show x.toModel.unpack = scaled k e from hx, show y.toModel.unpack = scaled l e from hy,
    add_scaled h hl hk he, unpack_pack_scaled h (by omega) he']

theorem IsScaled.sub (hx : IsScaled x k e) (hy : IsScaled y l e) (hk : Short k) (hl : Short l)
    (h : Short (k - l)) (he : -900 ≤ e) (he' : e ≤ 900) : IsScaled (x - y) (k - l) e := by
  show (Float.Model.pack (UnpackedFloat.sub .binary64 x.toModel.unpack y.toModel.unpack)).unpack = _
  rw [show x.toModel.unpack = scaled k e from hx, show y.toModel.unpack = scaled l e from hy,
    sub_scaled h hl hk he, unpack_pack_scaled h (by omega) he']

end Sums

/-! ## Comparisons -/

theorem lt_of_log2_lt {m n : Nat} (hm : 0 < m) (hn : 0 < n) (h : m.log2 < n.log2) : m < n :=
  ((Nat.log2_lt hm.ne').mp h).trans_le (Nat.log2_self_le hn.ne')

/-- Of two filled mantissas the exponents decide first. -/
theorem compare_filled {m n t : Nat} {e : Int} (hm : 0 < m) (hm' : m < 2 ^ 53) (hn : 0 < n)
    (hn' : n < 2 ^ 53) :
    (compare (e - missing m) (e + t - missing n)).then
        (compare (m * 2 ^ missing m) (n * 2 ^ missing n)) =
      compare m (n * 2 ^ t) := by
  have hdm := missing_add_log2 hm hm'
  have hdn := missing_add_log2 hn hn'
  have hlog := log2_mul_pow hn t
  have hpos : 0 < n * 2 ^ t := Nat.mul_pos hn (Nat.two_pow_pos t)
  rcases lt_trichotomy m.log2 (n * 2 ^ t).log2 with hlt | heq | hgt
  · have := lt_of_log2_lt hm hpos hlt
    rw [compare_lt_iff_lt.mpr this, compare_lt_iff_lt.mpr (by omega), Ordering.lt_then]
  · rw [compare_eq_iff_eq.mpr (by omega), Ordering.eq_then,
      show missing n = t + missing m by omega, pow_add, ← Nat.mul_assoc]
    rcases lt_trichotomy m (n * 2 ^ t) with h | h | h
    · rw [compare_lt_iff_lt.mpr h,
        compare_lt_iff_lt.mpr (Nat.mul_lt_mul_of_pos_right h (Nat.two_pow_pos _))]
    · rw [compare_eq_iff_eq.mpr h, compare_eq_iff_eq.mpr (by rw [h])]
    · rw [compare_gt_iff_gt.mpr h,
        compare_gt_iff_gt.mpr (Nat.mul_lt_mul_of_pos_right h (Nat.two_pow_pos _))]
  · have := lt_of_log2_lt hpos hm hgt
    rw [compare_gt_iff_gt.mpr this, compare_gt_iff_gt.mpr (by omega), Ordering.gt_then]

theorem compare_natAbs_of_nonneg {a b : Int} (ha : 0 ≤ a) (hb : 0 ≤ b) :
    compare a.natAbs b.natAbs = compare a b := by
  rcases lt_trichotomy a b with h | h | h
  · rw [compare_lt_iff_lt.mpr h, compare_lt_iff_lt.mpr (by omega)]
  · rw [compare_eq_iff_eq.mpr h, compare_eq_iff_eq.mpr (by omega)]
  · rw [compare_gt_iff_gt.mpr h, compare_gt_iff_gt.mpr (by omega)]

theorem swap_compare_natAbs_of_nonpos {a b : Int} (ha : a ≤ 0) (hb : b ≤ 0) :
    (compare a.natAbs b.natAbs).swap = compare a b := by
  rcases lt_trichotomy a b with h | h | h
  · rw [compare_lt_iff_lt.mpr h, compare_gt_iff_gt.mpr (by omega), Ordering.swap_gt]
  · rw [compare_eq_iff_eq.mpr h, compare_eq_iff_eq.mpr (by omega), Ordering.swap_eq]
  · rw [compare_gt_iff_gt.mpr h, compare_lt_iff_lt.mpr (by omega), Ordering.swap_lt]

/-- The order of doubles is that of their values. -/
theorem compare_scaled {k l e : Int} {t : Nat} (hk : Short k) (hl : Short l) :
    (scaled k e).compare (scaled l (e + t)) = some (compare k (l * 2 ^ t)) := by
  have hpow : (0 : Int) < 2 ^ t := by positivity
  have habs : (l * 2 ^ t).natAbs = l.natAbs * 2 ^ t := by
    rw [Int.natAbs_mul, Int.natAbs_pow]
    rfl
  rcases lt_trichotomy l 0 with hl0 | rfl | hl0
  · have hneg : l * 2 ^ t < 0 := Int.mul_neg_of_neg_of_pos hl0 hpow
    rcases lt_trichotomy k 0 with hk0 | rfl | hk0
    · have h := compare_filled (t := t) (e := e) (Int.natAbs_pos.mpr hk0.ne) hk
        (Int.natAbs_pos.mpr hl0.ne) hl
      rw [← swap_compare_natAbs_of_nonpos hk0.le hneg.le, habs, ← h]
      simp [scaled, signOf, hk0.ne, hl0.ne, hk0, hl0, UnpackedFloat.compare]
    · rw [compare_gt_iff_gt.mpr hneg]
      simp [scaled, signOf, hl0.ne, hl0, UnpackedFloat.compare]
    · rw [compare_gt_iff_gt.mpr (hneg.trans hk0)]
      simp [scaled, signOf, hk0.ne', hl0.ne, hk0.not_gt, hl0, UnpackedFloat.compare]
  · rw [Int.zero_mul]
    rcases lt_trichotomy k 0 with hk0 | rfl | hk0
    · rw [compare_lt_iff_lt.mpr hk0]
      simp [scaled, signOf, hk0.ne, hk0, UnpackedFloat.compare]
    · rfl
    · rw [compare_gt_iff_gt.mpr hk0]
      simp [scaled, signOf, hk0.ne', hk0.not_gt, UnpackedFloat.compare]
  · have hpos : 0 < l * 2 ^ t := Int.mul_pos hl0 hpow
    rcases lt_trichotomy k 0 with hk0 | rfl | hk0
    · rw [compare_lt_iff_lt.mpr (hk0.trans hpos)]
      simp [scaled, signOf, hk0.ne, hl0.ne', hk0, hl0.not_gt, UnpackedFloat.compare]
    · rw [compare_lt_iff_lt.mpr hpos]
      simp [scaled, signOf, hl0.ne', hl0.not_gt, UnpackedFloat.compare]
    · have h := compare_filled (t := t) (e := e) (Int.natAbs_pos.mpr hk0.ne') hk
        (Int.natAbs_pos.mpr hl0.ne') hl
      rw [← compare_natAbs_of_nonneg hk0.le hpos.le, habs, ← h]
      simp [scaled, signOf, hk0.ne', hl0.ne', hk0.not_gt, hl0.not_gt, UnpackedFloat.compare]

theorem lt_iff_compare {x y : Float} :
    x < y ↔ x.toModel.unpack.compare y.toModel.unpack = some .lt := by
  show decide (x.toModel < y.toModel) = true ↔ _
  rw [decide_eq_true_iff]
  show (x.toModel.unpack.compare y.toModel.unpack == some .lt) = true ↔ _
  rw [beq_iff_eq]

theorem le_iff_compare {x y : Float} :
    x ≤ y ↔ ∃ o, x.toModel.unpack.compare y.toModel.unpack = some o ∧ o.isLE = true := by
  show decide (x.toModel ≤ y.toModel) = true ↔ _
  rw [decide_eq_true_iff]
  show ((x.toModel.unpack.compare y.toModel.unpack).any (·.isLE)) = true ↔ _
  rw [Option.any_eq_true]

section Order

variable {x y : Float} {k l e : Int} {t : Nat}

theorem IsScaled.lt_iff (hx : IsScaled x k e) (hy : IsScaled y l (e + t)) (hk : Short k)
    (hl : Short l) : x < y ↔ k < l * 2 ^ t := by
  rw [lt_iff_compare, show x.toModel.unpack = scaled k e from hx,
    show y.toModel.unpack = scaled l _ from hy, compare_scaled hk hl, Option.some.injEq,
    compare_lt_iff_lt]

theorem IsScaled.le_iff (hx : IsScaled x k e) (hy : IsScaled y l (e + t)) (hk : Short k)
    (hl : Short l) : x ≤ y ↔ k ≤ l * 2 ^ t := by
  rw [le_iff_compare, show x.toModel.unpack = scaled k e from hx,
    show y.toModel.unpack = scaled l _ from hy, compare_scaled hk hl]
  simp [Ordering.isLE_iff_ne_gt, compare_gt_iff_gt]

end Order

end HtmlQuery.Decimal
