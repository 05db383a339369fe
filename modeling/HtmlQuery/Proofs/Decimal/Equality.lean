import HtmlQuery.Proofs.Decimal.Rounding

/-!
# When doubles are equal

Equality of doubles is read off from their comparison (`beq_iff_compare`), so it is symmetric
(`beq_comm`), although a double that is not a number differs from itself.

Doubles tell a natural number of at most 53 digits from every other natural number, however great
(`ofNat_beq_ofNat`).  A greater one loses digits when it is rounded, but the last digit that it
keeps is then no longer that of the units (`FarFromUnits`), and the exponents differ.
-/

namespace HtmlQuery.Decimal

open Float.Model Float.Model.UnpackedFloat

/-! ## Equality and comparison -/

theorem beq_iff_compare {x y : Float} :
    (x == y) = true ↔ x.toModel.unpack.compare y.toModel.unpack = some .eq := by
  show (x.toModel.unpack.compare y.toModel.unpack == some .eq) = true ↔ _
  rw [beq_iff_eq]

theorem swap_compare (u v : UnpackedFloat) :
    (u.compare v).map Ordering.swap = v.compare u := by
  cases u with
  | notANumber => cases v <;> rfl
  | infinity s =>
    cases v with
    | notANumber => rfl
    | infinity s' => cases s <;> cases s' <;> rfl
    | zero s' => cases s <;> rfl
    | finite s' m e hm => cases s <;> rfl
  | zero s =>
    cases v with
    | notANumber => rfl
    | infinity s' => cases s' <;> rfl
    | zero s' => rfl
    | finite s' m e hm => cases s' <;> rfl
  | finite s m e hm =>
    cases v with
    | notANumber => rfl
    | infinity s' => cases s' <;> rfl
    | zero s' => cases s <;> rfl
    | finite s' m' e' hm' =>
      have hexponents : compare e' e = (compare e e').swap := Std.OrientedOrd.eq_swap
      have hmantissas : compare m' m = (compare m m').swap := Std.OrientedOrd.eq_swap
      cases s <;> cases s' <;>
        simp [UnpackedFloat.compare, Ordering.swap_then, hexponents, hmantissas]

theorem beq_comm (x y : Float) : (x == y) = (y == x) := by
  rw [Bool.eq_iff_iff, beq_iff_compare, beq_iff_compare, ← swap_compare]
  cases y.toModel.unpack.compare x.toModel.unpack with
  | none => simp
  | some o => cases o <;> simp

/-! ## Natural numbers of more than 53 digits -/

/-- The last digit of a double is neither that of the units nor one of the 52 binary digits behind
these. -/
def FarFromUnits : UnpackedFloat → Prop
  | .finite _ _ e _ => ¬ (-52 ≤ e ∧ e ≤ 0)
  | _ => True

/-- Shifting to the exponent that 53 digits need does not make the exponent smaller. -/
theorem le_shiftToTargetExponent (m : Nat) (e : Int) (accuracy : Accuracy) :
    e ≤ (shiftToTargetExponent .binary64 m e accuracy).2 ∧
      m.log2 + e - 52 ≤ (shiftToTargetExponent .binary64 m e accuracy).2 := by
  simp only [shiftToTargetExponent, shiftToExponent, Format.targetExponent, totalExponent,
    Format.mantissaBits, Format.minExponent]
  omega

theorem farFromUnits_roundWithAccuracy {s : Sign} {m : Nat} {e : Int} {accuracy : Accuracy}
    (h : 52 < m.log2 + e) : FarFromUnits (roundWithAccuracy .binary64 s m e accuracy) := by
  have hfirst := (le_shiftToTargetExponent m e accuracy).2
  have hsecond := (le_shiftToTargetExponent
    (shiftToTargetExponent .binary64 m e accuracy).1.roundedMantissa
    (shiftToTargetExponent .binary64 m e accuracy).2 .exact).1
  simp only [roundWithAccuracy]
  split
  · trivial
  · show ¬ (-52 ≤ Prod.snd _ ∧ Prod.snd _ ≤ 0)
    omega

/-- The exponent that is stored and read again is the same, or it is far below the units. -/
theorem FarFromUnits.unpack_pack {u : UnpackedFloat} (h : FarFromUnits u) :
    FarFromUnits (Float.Model.pack u).unpack := by
  have key : ∀ (s : Sign) (e : BitVec 11) (m : BitVec 52),
      ¬ (1023 ≤ e.toNat ∧ e.toNat ≤ 1075) →
        FarFromUnits (UnpackedFloat.unpack .binary64 (packComponents .binary64 s e m)) := by
    intro s e m he
    simp only [UnpackedFloat.unpack, unpackExponent_packComponents, unpackMantissa_packComponents,
      ofBitVec_unpackSign_packComponents]
    split
    · split <;> trivial
    · split
      next hzero =>
        split
        · trivial
        · show ¬ _
          rw [hzero]
          decide
      · simp only [FarFromUnits, Format.exponentBias]
        norm_num
        omega
  show FarFromUnits (UnpackedFloat.unpack .binary64 (UnpackedFloat.pack .binary64 u))
  cases u with
  | notANumber => trivial
  | zero s => cases s <;> trivial
  | infinity s => cases s <;> trivial
  | finite s m e hm =>
    have h : ¬ (-52 ≤ e ∧ e ≤ 0) := h
    simp only [UnpackedFloat.pack]
    split
    · cases s <;> trivial
    next hsmall =>
      simp only [Format.exponentBias] at hsmall ⊢
      norm_num at hsmall ⊢
      split
      · refine key _ _ _ ?_
        rw [BitVec.toNat_ofNat]
        omega
      · exact key _ _ _ (by decide)

theorem toModel_ofNat {n : Nat} (h : 2 ^ 53 ≤ n) :
    (Float.ofNat n).toModel = Float.Model.pack (UnpackedFloat.ofScientific .binary64 n 0) := by
  show (Float.ofScientific n false 0).toModel = _
  rw [Float.ofScientific, dif_neg (by omega)]
  rfl

/-- From `2 ^ 53` on the last of the 53 digits is no longer that of the units. -/
theorem farFromUnits_ofNat {n : Nat} (h : 2 ^ 53 ≤ n) :
    FarFromUnits (Float.ofNat n).toModel.unpack := by
  have hpos : n ≠ 0 := by omega
  have hlog : 53 ≤ n.log2 := (Nat.le_log2 hpos).mpr h
  rw [toModel_ofNat h]
  refine FarFromUnits.unpack_pack ?_
  rw [UnpackedFloat.ofScientific, dif_neg hpos, if_neg (by decide), if_neg (by simp),
    if_pos (by decide), UnpackedFloat.mul]
  have hm : n <<< Format.binary64.mantissaBits * 10 ^ Int.toNat 0 = n * 2 ^ 53 := by
    rw [Nat.shiftLeft_eq, Int.toNat_zero, pow_zero, Nat.mul_one]
    rfl
  have hbits : Format.binary64.mantissaBits = 53 := rfl
  refine farFromUnits_roundWithAccuracy ?_
  rw [hm, log2_mul_pow (Nat.pos_of_ne_zero hpos), hbits]
  omega

/-- The 53 digits of a smaller natural number end among the units or behind them. -/
theorem FarFromUnits.compare_ne_eq {u : UnpackedFloat} (h : FarFromUnits u) {m : Nat} (hm : 0 < m)
    (hm' : m < 2 ^ 53) : u.compare (scaled m 0) ≠ some .eq := by
  have hmissing := missing_add_log2 hm hm'
  have hscaled : scaled m 0 = .finite .positive (m * 2 ^ missing m) (0 - missing m)
      (Nat.mul_pos hm (Nat.two_pow_pos _)) := by
    simp [scaled, signOf, hm.ne']
  rw [hscaled]
  cases u with
  | notANumber | zero => simp [UnpackedFloat.compare]
  | infinity sign => cases sign <;> simp [UnpackedFloat.compare]
  | finite sign k e hk =>
    cases sign with
    | negative => simp [UnpackedFloat.compare]
    | positive =>
      have h : ¬ (-52 ≤ e ∧ e ≤ 0) := h
      have hne : compare e (0 - (missing m : Int)) ≠ .eq := fun he => by
        have := compare_eq_iff_eq.mp he
        omega
      simp only [UnpackedFloat.compare, ne_eq, Option.some.injEq, Ordering.then_eq_eq, hne,
        false_and, not_false_iff]

theorem FarFromUnits.beq_ofNat {x : Float} (h : FarFromUnits x.toModel.unpack) {m : Nat}
    (hm : 0 < m) (hm' : m < 2 ^ 53) : (x == Float.ofNat m) = false := by
  have hscaled : (Float.ofNat m).toModel.unpack = scaled m 0 := isScaled_ofNat hm'
  rw [← Bool.not_eq_true, beq_iff_compare, hscaled]
  exact h.compare_ne_eq hm hm'

theorem farFromUnits_infinity : FarFromUnits (1 / 0 : Float).toModel.unpack := by
  have hinf : (1 / 0 : Float).toModel.unpack = .infinity .positive := rfl
  rw [hinf]
  trivial

/-- Natural numbers are told apart by their doubles, if one of them has at most 53 digits. -/
theorem ofNat_beq_ofNat {m n : Nat} (hm : 0 < m) (hm' : m < 2 ^ 53) :
    (Float.ofNat n == Float.ofNat m) = true ↔ n = m := by
  rcases Nat.lt_or_ge n (2 ^ 53) with hn | hn
  · have hleft : (Float.ofNat n).toModel.unpack = scaled n 0 := isScaled_ofNat hn
    have hright : (Float.ofNat m).toModel.unpack = scaled m 0 := isScaled_ofNat hm'
    have hcompare := compare_scaled (k := n) (l := m) (e := 0) (t := 0) hn hm'
    rw [Int.natCast_zero, Int.add_zero, pow_zero, Int.mul_one] at hcompare
    rw [beq_iff_compare, hleft, hright, hcompare, Option.some.injEq, compare_eq_iff_eq,
      Int.natCast_inj]
  · have hne : n ≠ m := by omega
    rw [(farFromUnits_ofNat hn).beq_ofNat hm hm']
    simp only [hne, Bool.false_eq_true]

end HtmlQuery.Decimal
