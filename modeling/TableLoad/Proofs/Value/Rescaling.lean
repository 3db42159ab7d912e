import Mathlib.Tactic.FieldSimp
import TableLoad.Proofs.Conversion.Joining
import TableLoad.Proofs.Text.Digits
import TableLoad.Proofs.Value.Decimal

/-!
# Decimals in decimal columns

A column of a valid decimal type holds the decimals that it can write exactly: with its
own number of digits after the point, and with no more digits than its precision.  The
same comes out when digits and scales are counted in bytes and integers have 128 bits.
-/

set_option autoImplicit false

namespace TableLoad

namespace Decimal

/-- The number that the decimal stands for. -/
def number (d : Decimal) : ℚ :=
  d.unscaled / 10 ^ d.scale.toNat

theorem number_rescaled (d e : Decimal) (wider : d.scale ≤ e.scale)
    (unscaled : e.unscaled = d.unscaled * 10 ^ (e.scale.toNat - d.scale.toNat)) :
    e.number = d.number := by
  have places : (10 : ℚ) ^ e.scale.toNat =
      10 ^ (e.scale.toNat - d.scale.toNat) * 10 ^ d.scale.toNat := by
    rw [← pow_add, Nat.sub_add_cancel (UInt8.le_iff_toNat_le.mp wider)]
  rw [number, number, unscaled, places]
  push_cast
  field_simp

/-! ## Counting in machine integers -/

/-- The digits of a number, counted by dividing it by ten.  The counter is a byte and
wraps around. -/
def countDigits (n : BitVec 128) (count : UInt8) : UInt8 :=
  if n.toNat < 10 then count else countDigits (n / 10) (count + 1)
termination_by n.toNat
decreasing_by
  rw [BitVec.toNat_udiv]
  exact Nat.div_lt_self (by omega) (by decide)

theorem countDigits_toNat (n : BitVec 128) (count : UInt8)
    (room : count.toNat + (Digits.ofNat n.toNat).length ≤ 256) :
    (countDigits n count).toNat + 1 = count.toNat + (Digits.ofNat n.toNat).length := by
  fun_induction countDigits n count with
  | case1 n count small => rw [Digits.ofNat_small n.toNat small, List.length_singleton]
  | case2 n count large ih =>
    have shorter : (n / 10).toNat = n.toNat / 10 := BitVec.toNat_udiv
    have longer : (Digits.ofNat n.toNat).length =
        (Digits.ofNat (n.toNat / 10)).length + 1 := by
      rw [Digits.ofNat_large n.toNat (by omega), List.length_append, List.length_singleton]
    have some : 0 < (Digits.ofNat (n.toNat / 10)).length := Nat.length_toDigits_pos
    have next : (count + 1).toNat = count.toNat + 1 := by
      have one : (1 : UInt8).toNat = 1 := rfl
      rw [UInt8.toNat_add, one]
      exact Nat.mod_eq_of_lt (by omega)
    rw [shorter, next] at ih
    rw [ih (by omega), longer]
    omega

def magnitude (d : Decimal) : BitVec 128 :=
  (BitVec.ofInt 128 d.unscaled).abs

theorem magnitude_toNat (d : Decimal) : d.magnitude.toNat = d.unscaled.natAbs := by
  obtain ⟨low, high⟩ := (isUnscaled_iff d.unscaled).mp d.inRange
  have signed : (BitVec.ofInt 128 d.unscaled).toInt = d.unscaled := by
    rw [BitVec.toInt_ofInt]
    exact Int.bmod_eq_of_le (by omega) (by omega)
  rw [magnitude, BitVec.toNat_abs]
  rw [BitVec.toInt_eq_msb_cond] at signed
  split at signed
  · rename_i negative
    rw [if_pos negative]
    omega
  · rename_i positive
    rw [if_neg positive]
    omega

/-- The digits of the unscaled integer as a byte counts them. -/
def digitByte (d : Decimal) : UInt8 :=
  countDigits d.magnitude 1

/-- The counter never wraps around. -/
theorem digitByte_toNat (d : Decimal) : d.digitByte.toNat = d.digits := by
  have counted := countDigits_toNat d.magnitude 1
  have bound := d.digits_le
  rw [magnitude_toNat] at counted
  have one : (1 : UInt8).toNat = 1 := rfl
  rw [digits] at bound ⊢
  rw [one] at counted
  have whole := counted (by omega)
  rw [digitByte]
  omega

/-- The decimal as a column of a precision and a scale stores it, in machine integers:
the difference of the scales and the number of digits are bytes, and the power of ten and
the product are refused when they do not fit 128 bits. -/
def inWords? (d : Decimal) (precision scale : UInt8) : Option Decimal :=
  if d.scale ≤ scale then
    let shift := scale - d.scale
    let factor : Int := Int.pow 10 shift.toNat
    if IsUnscaled factor then
      (of? (d.unscaled * factor) scale).filter fun e => e.digitByte ≤ precision
    else none
  else none

theorem inWords_eq (d : Decimal) (precision scale : UInt8) :
    d.inWords? precision scale =
      (d.rescale? scale).filter fun e => e.digits ≤ precision.toNat := by
  have counted : (fun e : Decimal => decide (e.digitByte ≤ precision)) =
      fun e => decide (e.digits ≤ precision.toNat) := by
    funext e
    apply decide_eq_decide.mpr
    rw [UInt8.le_iff_toNat_le, digitByte_toNat]
  rw [inWords?, rescale?, counted]
  by_cases wider : d.scale ≤ scale
  · simp only [wider, UInt8.toNat_sub_of_le scale d.scale wider, true_and, if_true]
    split
    · rfl
    · rfl
  · simp only [wider, false_and, if_false, Option.filter_none]

end Decimal

theorem coerce_decimal_eq (precision scale : UInt8) (d : Decimal) :
    coerce? (.decimal precision scale) (.decimal d) =
      (d.inWords? precision scale).map Value.decimal := by
  rw [Decimal.inWords_eq, coerce?]
  cases d.rescale? scale with
  | none => rfl
  | some e =>
    by_cases short : e.digits ≤ precision.toNat
    · simp [Option.filter, short]
    · simp [Option.filter, short]

/-! ## Coercion -/

theorem Decimal.natAbs_shifted (d : Decimal) (places : Nat) :
    (d.unscaled * 10 ^ places).natAbs = d.unscaled.natAbs * 10 ^ places := by
  rw [Int.natAbs_mul, Int.natAbs_pow]
  rfl

theorem decimal_held_iff (precision scale : UInt8)
    (valid : (Atom.decimal precision scale).check = .ok ()) (d : Decimal) :
    (coerce? (.decimal precision scale) (.decimal d)).isSome = true ↔
      d.scale ≤ scale ∧
        d.unscaled.natAbs * 10 ^ (scale.toNat - d.scale.toNat) < 10 ^ precision.toNat := by
  obtain ⟨present, most, within⟩ := (Atom.check_decimal_iff precision scale).mp valid
  rw [coerce_decimal_iff]
  constructor
  · rintro ⟨e, rescaled, short⟩
    obtain ⟨wider, _, _, unscaled⟩ := (Decimal.rescale_eq_some_iff d e scale).mp rescaled
    have small := ((Decimal.digits_le_iff e precision.toNat).mp short).2
    rw [unscaled, Decimal.natAbs_shifted] at small
    exact ⟨wider, small⟩
  · rintro ⟨wider, small⟩
    have factor : IsUnscaled (10 ^ (scale.toNat - d.scale.toNat)) := by
      apply isUnscaled_of_natAbs_le _ (scale.toNat - d.scale.toNat) (by omega)
      rw [Int.natAbs_pow]
      exact Nat.le_refl _
    have product : IsUnscaled (d.unscaled * 10 ^ (scale.toNat - d.scale.toNat)) := by
      apply isUnscaled_of_natAbs_le _ precision.toNat most
      rw [Decimal.natAbs_shifted]
      exact Nat.le_of_lt small
    refine ⟨⟨_, scale, product⟩, ?_, ?_⟩
    · exact (Decimal.rescale_eq_some_iff ..).mpr ⟨wider, factor, rfl, rfl⟩
    · rw [Decimal.digits_le_iff, Decimal.natAbs_shifted]
      exact ⟨by omega, small⟩

/-- A column of a valid decimal type holds a decimal exactly if it has no more digits
after the point than the column and its unscaled integer, written with those of the
column, is below the power of ten of the precision.  What it stores has the scale of the
column and is the same number.  Coercion comes to the same in machine integers, of which
only the power of ten and the product can overflow, and then it is refused. -/
theorem decimal_coerced_exactly (precision scale : UInt8)
    (valid : (Atom.decimal precision scale).check = .ok ()) (d : Decimal) :
    ((∃ stored, coerce? (.decimal precision scale) (.decimal d) = some stored) ↔
      d.scale ≤ scale ∧
        d.unscaled.natAbs * 10 ^ (scale.toNat - d.scale.toNat) < 10 ^ precision.toNat) ∧
    (∀ stored, coerce? (.decimal precision scale) (.decimal d) = some stored →
      ∃ e : Decimal, stored = .decimal e ∧ e.scale = scale ∧
        e.unscaled = d.unscaled * 10 ^ (scale.toNat - d.scale.toNat) ∧ e.number = d.number) ∧
    coerce? (.decimal precision scale) (.decimal d) =
      (d.inWords? precision scale).map Value.decimal := by
  refine ⟨?_, ?_, coerce_decimal_eq precision scale d⟩
  · rw [← decimal_held_iff precision scale valid d, Option.isSome_iff_exists]
  · intro stored coerced
    rw [coerce_decimal_eq, Decimal.inWords_eq, Option.map_eq_some_iff] at coerced
    obtain ⟨e, kept, rfl⟩ := coerced
    obtain ⟨rescaled, _⟩ := Option.filter_eq_some_iff.mp kept
    obtain ⟨wider, _, same, unscaled⟩ := (Decimal.rescale_eq_some_iff d e scale).mp rescaled
    subst same
    exact ⟨e, rfl, rfl, unscaled, Decimal.number_rescaled d e wider unscaled⟩

theorem widest_decimals_coerced :
    (Atom.decimal 38 1).check = .ok () ∧
      (∃ e : Decimal,
        coerce? (.decimal 38 1) (.decimal ⟨10 ^ 37 - 1, 0, by decide⟩) = some (.decimal e) ∧
          e.scale = 1 ∧ e.unscaled = 10 ^ 38 - 10) ∧
      coerce? (.decimal 38 1) (.decimal ⟨10 ^ 37, 0, by decide⟩) = none ∧
      coerce? (.decimal 38 1) (.decimal ⟨-2 ^ 127, 0, by decide⟩) = none := by
  have valid : (Atom.decimal 38 1).check = .ok () := rfl
  refine ⟨valid, ?_, ?_, ?_⟩
  · obtain ⟨holds, exact, _⟩ :=
      decimal_coerced_exactly 38 1 valid ⟨10 ^ 37 - 1, 0, by decide⟩
    obtain ⟨stored, coerced⟩ := holds.mpr (by decide)
    obtain ⟨e, rfl, scale, unscaled, _⟩ := exact stored coerced
    refine ⟨e, coerced, scale, unscaled.trans ?_⟩
    decide
  · obtain ⟨holds, _, _⟩ := decimal_coerced_exactly 38 1 valid ⟨10 ^ 37, 0, by decide⟩
    apply Option.eq_none_iff_forall_ne_some.mpr
    intro stored coerced
    exact absurd (holds.mp ⟨stored, coerced⟩) (by decide)
  · obtain ⟨holds, _, _⟩ := decimal_coerced_exactly 38 1 valid ⟨-2 ^ 127, 0, by decide⟩
    apply Option.eq_none_iff_forall_ne_some.mpr
    intro stored coerced
    exact absurd (holds.mp ⟨stored, coerced⟩) (by decide)

end TableLoad
