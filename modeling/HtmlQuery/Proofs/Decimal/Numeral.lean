import HtmlQuery.Decimal.Numeral
import HtmlQuery.Proofs.Decimal.Rounding

/-!
# The double of a numeral

What is written as a decimal has a double, be it zero or infinity: it is never the double that is
not a number (`Numeral.isNaN_toFloat`).  A product or a quotient of doubles above zero has a sign,
whatever it is rounded to, and so has a natural number times a power of ten.
-/

namespace HtmlQuery.Decimal

open Float.Model Float.Model.UnpackedFloat

theorem HasSign.isNaN_eq_false {s : Sign} {x : Float} (h : HasSign s x.toModel.unpack) :
    x.isNaN = false := by
  show x.toModel.unpack.isNaN = false
  cases hx : x.toModel.unpack with
  | notANumber =>
    rw [hx] at h
    exact h.elim
  | _ => rfl

/-- A finite double above zero. -/
def IsPositive : UnpackedFloat → Prop
  | .finite .positive _ _ _ => True
  | _ => False

instance : DecidablePred IsPositive
  | .finite .positive _ _ _ => isTrue trivial
  | .finite .negative _ _ _ => isFalse id
  | .zero _ => isFalse id
  | .infinity _ => isFalse id
  | .notANumber => isFalse id

/-- A whole number that is not below zero. -/
theorem scaled_zero_or_isPositive {n : Nat} :
    scaled n 0 = .zero .positive ∨ IsPositive (scaled n 0) := by
  by_cases h : n = 0
  · subst h
    exact .inl rfl
  · refine .inr ?_
    rw [scaled, dif_neg (by omega), signOf, if_neg (by omega)]
    trivial

theorem hasSign_roundWithAccuracy {s : Sign} {m : Nat} {e : Int} {accuracy : Accuracy} :
    HasSign s (roundWithAccuracy .binary64 s m e accuracy) := by
  simp only [roundWithAccuracy]
  split <;> rfl

variable {u v : UnpackedFloat}

theorem IsPositive.hasSign_mul (hu : u = .zero .positive ∨ IsPositive u) (hv : IsPositive v) :
    HasSign .positive (UnpackedFloat.mul .binary64 u v) := by
  match v, hv with
  | .finite .positive m e hm, _ =>
    match u, hu with
    | .zero .positive, _ => rfl
    | .finite .positive m' e' hm', _ => exact hasSign_roundWithAccuracy

theorem IsPositive.hasSign_div (hu : u = .zero .positive ∨ IsPositive u) (hv : IsPositive v) :
    HasSign .positive (UnpackedFloat.div .binary64 u v) := by
  match v, hv with
  | .finite .positive m e hm, _ =>
    match u, hu with
    | .zero .positive, _ => rfl
    | .finite .positive m' e' hm', _ => exact hasSign_roundWithAccuracy

/-- The powers of ten that are doubles. -/
theorem isPositive_powerOfTen (e : Fin 23) :
    IsPositive (Float.exactlyRepresentablePowersOfTen[e]).toModel.unpack := by
  revert e
  decide +kernel

theorem hasSign_ofScientific_unpacked (m : Nat) (e : Int) :
    HasSign .positive (UnpackedFloat.ofScientific .binary64 m e) := by
  rw [UnpackedFloat.ofScientific]
  split
  · rfl
  · split
    · rfl
    · split
      · rfl
      · split
        · exact IsPositive.hasSign_mul (.inr trivial) trivial
        · exact IsPositive.hasSign_div (.inr trivial) trivial

/-- A natural number times a power of ten. -/
theorem hasSign_ofScientific (m : Nat) (down : Bool) (e : Nat) :
    HasSign .positive (Float.ofScientific m down e).toModel.unpack := by
  rw [Float.ofScientific]
  split
  next h =>
    have hm : m.toUInt64.toNat = m := by
      rw [Nat.toUInt64_eq, UInt64.toNat_ofNat']
      exact Nat.mod_eq_of_lt (by omega)
    have hwhole : m.toUInt64.toFloat.toModel.unpack = scaled m.toUInt64.toNat 0 :=
      isScaled_toFloat (by rw [hm]; exact h.1)
    have hleft := scaled_zero_or_isPositive (n := m.toUInt64.toNat)
    rw [← hwhole] at hleft
    have hright := isPositive_powerOfTen ⟨e, by omega⟩
    cases down with
    | true => exact HasSign.unpack_pack (IsPositive.hasSign_div hleft hright)
    | false => exact HasSign.unpack_pack (IsPositive.hasSign_mul hleft hright)
  next => exact HasSign.unpack_pack (hasSign_ofScientific_unpacked m _)

theorem hasSign_scaledToFloat (m : Nat) (e : Int) :
    HasSign .positive (scaledToFloat m e).toModel.unpack := by
  rw [scaledToFloat]
  split <;> exact hasSign_ofScientific _ _ _

/-- A numeral has a double that is a number. -/
theorem Numeral.isNaN_toFloat (n : Numeral) : n.toFloat.isNaN = false := by
  have hpositive : ∀ size : Float, HasSign .positive size.toModel.unpack →
      (if n.negative then -size else size).isNaN = false := by
    intro size h
    split
    · exact h.neg.isNaN_eq_false
    · exact h.isNaN_eq_false
  refine hpositive _ ?_
  split
  · exact rfl
  · split
    · exact rfl
    · exact hasSign_scaledToFloat _ _

end HtmlQuery.Decimal
