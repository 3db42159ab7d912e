import Mathlib.Algebra.Order.Ring.Int
import Mathlib.Tactic.Ring
import Mathlib.Tactic.NormNum
import TableLoad.DataType.Join
import TableLoad.Conversion.Coercion

/-!
# Decimals as integers

Rescaling and precision of decimals in terms of their unscaled integers, and the
condition under which a decimal column can hold a decimal.
-/

set_option autoImplicit false

namespace TableLoad

theorem isUnscaled_iff (n : Int) : IsUnscaled n ↔ -2 ^ 127 ≤ n ∧ n < 2 ^ 127 :=
  Iff.rfl

namespace Decimal

theorem digits_pos (d : Decimal) : 0 < d.digits :=
  Nat.length_toDigits_pos

theorem digits_le_iff (d : Decimal) (precision : Nat) :
    d.digits ≤ precision ↔ 0 < precision ∧ d.unscaled.natAbs < 10 ^ precision := by
  constructor
  · intro short
    have positive : 0 < precision := Nat.lt_of_lt_of_le d.digits_pos short
    exact ⟨positive, (Nat.length_toDigits_le_iff (by decide) positive).mp short⟩
  · rintro ⟨positive, small⟩
    exact (Nat.length_toDigits_le_iff (by decide) positive).mpr small

theorem digits_le (d : Decimal) : d.digits ≤ 39 := by
  rw [digits_le_iff]
  obtain ⟨low, high⟩ := (isUnscaled_iff d.unscaled).mp d.inRange
  exact ⟨by decide, by omega⟩

theorem precision_lt (d : Decimal) : d.precision < 256 := by
  have digits := d.digits_le
  have scale := d.scale.toNat_lt
  unfold precision
  omega

theorem rescale_eq_some_iff (d e : Decimal) (scale : UInt8) :
    d.rescale? scale = some e ↔
      d.scale ≤ scale ∧ IsUnscaled (10 ^ (scale.toNat - d.scale.toNat)) ∧
        e.scale = scale ∧ e.unscaled = d.unscaled * 10 ^ (scale.toNat - d.scale.toNat) := by
  simp only [rescale?, of?]
  constructor
  · intro rescaled
    split at rescaled
    · rename_i guard
      split at rescaled
      · have equal := Option.some.inj rescaled
        subst equal
        exact ⟨guard.1, guard.2, rfl, rfl⟩
      · cases rescaled
    · cases rescaled
  · rintro ⟨wider, factor, sameScale, unscaled⟩
    have inRange : IsUnscaled (d.unscaled * 10 ^ (scale.toNat - d.scale.toNat)) :=
      unscaled ▸ e.inRange
    have rescaled : d.rescale? scale =
        some ⟨d.unscaled * 10 ^ (scale.toNat - d.scale.toNat), scale, inRange⟩ :=
      (if_pos ⟨wider, factor⟩).trans (dif_pos inRange)
    refine rescaled.trans ?_
    obtain ⟨number, places, range⟩ := e
    dsimp only at sameScale unscaled
    subst sameScale unscaled
    rfl

theorem rescale_self (d : Decimal) : d.rescale? d.scale = some d := by
  rw [rescale_eq_some_iff]
  refine ⟨UInt8.le_refl _, ?_, rfl, ?_⟩
  · rw [Nat.sub_self]
    decide
  · simp

end Decimal

/-- Powers of ten within the largest precision have 128 bits. -/
theorem isUnscaled_of_natAbs_le (n : Int) (exponent : Nat) (within : exponent ≤ maxPrecision)
    (small : n.natAbs ≤ 10 ^ exponent) : IsUnscaled n := by
  have bound : 10 ^ exponent ≤ 10 ^ 38 := Nat.pow_le_pow_right (by decide) within
  rw [isUnscaled_iff]
  constructor <;> omega

/-- A decimal column holds the decimals with no more digits after the point than
the column has, and no more digits altogether once written at its scale. -/
theorem coerce_decimal_iff (precision scale : UInt8) (d : Decimal) :
    (coerce? (.decimal precision scale) (.decimal d)).isSome = true ↔
      ∃ e, d.rescale? scale = some e ∧ e.digits ≤ precision.toNat := by
  simp only [coerce?]
  cases rescaled : d.rescale? scale with
  | none => simp
  | some e =>
    by_cases short : e.digits ≤ precision.toNat
    · simp [short]
    · simp [short]

end TableLoad
