import TableLoad.Number.Binary
import TableLoad.Text.Digits

/-!
# Numerals read step by step

The digits of a numeral are gathered in a word of 64 bits as long as they fit.  The
double nearest to the word is then multiplied or divided by powers of ten, and every
step is rounded: what comes out may differ from the nearest double in its last bits.
-/

set_option autoImplicit false

namespace TableLoad.Number

namespace Format

/-- A finite float without its sign as a quotient. -/
def fraction? (format : Format) (bits : Nat) : Option (Nat × Nat) :=
  match format.magnitude bits with
  | .finite significand exponent =>
    some (significand * Nat.pow 2 exponent.toNat, Nat.pow 2 (-exponent).toNat)
  | _ => none

/-- The product of two floats without sign, rounded once. -/
def product? (format : Format) (a b : Nat) : Option Nat := do
  let (num, den) ← format.fraction? a
  let (factor, divisor) ← format.fraction? b
  return format.nearest (num * factor) (den * divisor)

def quotient? (format : Format) (a b : Nat) : Option Nat := do
  let (num, den) ← format.fraction? a
  let (divisor, factor) ← format.fraction? b
  return format.nearest (num * factor) (den * divisor)

end Format

/-- The digits that still fit a word of 64 bits, after some that were gathered before,
and those that do not. -/
def gatherDigits : (significand : Nat) → List Char → Nat × List Char
  | significand, [] => (significand, [])
  | significand, c :: rest =>
    let next := Digits.value significand [c]
    if next < Nat.pow 2 64 then gatherDigits next rest else (significand, c :: rest)

namespace Binary64

def largestTenPower : Nat := 308

def tenPower (exponent : Nat) : Nat :=
  Format.double.nearest (Nat.pow 10 exponent) 1

/-- A double without its sign, scaled by a power of ten; none if that is too large.
Only very small numbers take more than one step. -/
def scaleTen? (bits : Nat) (exponent : Int) : Option Nat :=
  if exponent.natAbs ≤ largestTenPower then
    if 0 ≤ exponent then
      (Format.double.product? bits (tenPower exponent.natAbs)).filter (· < Format.double.infinity)
    else Format.double.quotient? bits (tenPower exponent.natAbs)
  else if bits = 0 then some 0
  else if 0 ≤ exponent then none
  else (Format.double.quotient? bits (tenPower largestTenPower)).bind fun bits =>
    scaleTen? bits (exponent + largestTenPower)
termination_by exponent.natAbs
decreasing_by
  simp only [largestTenPower] at *
  omega

def ofParts? (negative : Bool) (significand : Nat) (exponent : Int) : Option Binary64 :=
  (scaleTen? (Format.double.nearest significand 1) exponent).map fun bits =>
    ⟨UInt64.ofNat ((if negative then Format.double.signBit else 0) + bits)⟩

end Binary64

end TableLoad.Number
