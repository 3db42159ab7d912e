import TableLoad.Text.Digits

/-!
# Decimals

Fixed-point numbers: an unscaled integer of 128 bits and the number of digits
after the point.
-/

set_option autoImplicit false

namespace TableLoad

/-- Integers of 128 bits. -/
def IsUnscaled (n : Int) : Prop :=
  -(Int.pow 2 127) ≤ n ∧ n < Int.pow 2 127

instance (n : Int) : Decidable (IsUnscaled n) :=
  inferInstanceAs (Decidable (_ ∧ _))

/-- The number `unscaled / 10 ^ scale`. -/
structure Decimal where
  unscaled : Int
  scale : UInt8
  inRange : IsUnscaled unscaled
deriving DecidableEq

namespace Decimal

def of? (unscaled : Int) (scale : UInt8) : Option Decimal :=
  if inRange : IsUnscaled unscaled then some ⟨unscaled, scale, inRange⟩ else none

def digits (d : Decimal) : Nat :=
  (Digits.ofNat d.unscaled.natAbs).length

def precision (d : Decimal) : Nat :=
  max d.digits d.scale.toNat

/-- The same number with at least as many digits after the point, if its
unscaled integer and the power of ten between the scales still have 128 bits. -/
def rescale? (d : Decimal) (scale : UInt8) : Option Decimal :=
  let factor : Int := Int.pow 10 (scale.toNat - d.scale.toNat)
  if d.scale ≤ scale ∧ IsUnscaled factor then of? (d.unscaled * factor) scale
  else none

/-- Positional text with exactly `scale` digits after the point and at least one
before it. -/
def text (d : Decimal) : List Char :=
  let sign := if d.unscaled < 0 then ['-'] else []
  let digits := Digits.ofNat d.unscaled.natAbs
  let places := d.scale.toNat
  if places = 0 then sign ++ digits
  else
    let padded := Digits.padZeros (places + 1) digits
    let whole := padded.length - places
    sign ++ padded.take whole ++ '.' :: padded.drop whole

end Decimal

end TableLoad
