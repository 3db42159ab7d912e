import TableLoad.Number.Rounding

/-!
# Binary floating point

Binary interchange formats by their field widths.  A float is its bit pattern;
what it stands for is computed from the pattern in exact integer arithmetic, so
that widening and rounding can be reasoned about.
-/

set_option autoImplicit false

namespace TableLoad.Number

/-- Widths of the fraction and exponent fields; one sign bit stands before
them. -/
structure Format where
  fractionBits : Nat
  exponentBits : Nat
deriving DecidableEq, Repr

namespace Format

def single : Format := ⟨23, 8⟩

def double : Format := ⟨52, 11⟩

def bias (format : Format) : Nat :=
  Nat.pow 2 (format.exponentBits - 1) - 1

/-- The exponent of the last place of the smallest floats. -/
def leastExponent (format : Format) : Int :=
  1 - (format.bias : Int) - (format.fractionBits : Int)

def infinity (format : Format) : Nat :=
  (Nat.pow 2 format.exponentBits - 1) * Nat.pow 2 format.fractionBits

def signBit (format : Format) : Nat :=
  Nat.pow 2 (format.exponentBits + format.fractionBits)

end Format

/-- What a bit pattern without its sign stands for. -/
inductive Magnitude
  | finite (significand : Nat) (exponent : Int)
  | infinite
  | nan
deriving DecidableEq, Repr

namespace Format

def negative (format : Format) (bits : Nat) : Bool :=
  format.signBit ≤ bits

def unsigned (format : Format) (bits : Nat) : Nat :=
  bits % format.signBit

/-- The significand times a power of two that a pattern stands for. -/
def magnitude (format : Format) (bits : Nat) : Magnitude :=
  let field := format.unsigned bits / Nat.pow 2 format.fractionBits
  let fraction := format.unsigned bits % Nat.pow 2 format.fractionBits
  if field = Nat.pow 2 format.exponentBits - 1 then
    if fraction = 0 then .infinite else .nan
  else if field = 0 then
    .finite fraction format.leastExponent
  else
    .finite (Nat.pow 2 format.fractionBits + fraction) (format.leastExponent + field - 1)

/-- The exponent of the leading bit of the positive quotient `num / den`. -/
def leadingExponent (num den : Nat) : Int :=
  let guess : Int := (num.log2 : Int) - (den.log2 : Int)
  if den * Nat.pow 2 guess.toNat ≤ num * Nat.pow 2 (-guess).toNat then guess else guess - 1

/-- The pattern of the float nearest to `num / den`, ties to the even
significand; infinity when the quotient is too large for the format. -/
def nearest (format : Format) (num den : Nat) : Nat :=
  if num = 0 then 0
  else
    let place := max (leadingExponent num den - format.fractionBits) format.leastExponent
    let significand := roundDiv (num * Nat.pow 2 (-place).toNat) (den * Nat.pow 2 place.toNat)
    let bits := (place - format.leastExponent).toNat * Nat.pow 2 format.fractionBits + significand
    min bits format.infinity

def ofQuotient (format : Format) (negative : Bool) (num den : Nat) : Nat :=
  (if negative then format.signBit else 0) + format.nearest num den

end Format

structure Binary32 where
  bits : UInt32
deriving DecidableEq, Repr

structure Binary64 where
  bits : UInt64
deriving DecidableEq, Repr

namespace Binary32

def zero : Binary32 := ⟨0⟩

def one : Binary32 := ⟨0x3f800000⟩

def nan : Binary32 := ⟨0x7fc00000⟩

def isNan (x : Binary32) : Bool :=
  Format.single.magnitude x.bits.toNat = .nan

def ofInt (n : Int) : Binary32 :=
  ⟨UInt32.ofNat (Format.single.ofQuotient (n < 0) n.natAbs 1)⟩

end Binary32

namespace Binary64

def zero : Binary64 := ⟨0⟩

def one : Binary64 := ⟨0x3ff0000000000000⟩

def nan : Binary64 := ⟨0x7ff8000000000000⟩

def isNan (x : Binary64) : Bool :=
  Format.double.magnitude x.bits.toNat = .nan

def isFinite (x : Binary64) : Bool :=
  match Format.double.magnitude x.bits.toNat with
  | .finite _ _ => true
  | _ => false

def ofInt (n : Int) : Binary64 :=
  ⟨UInt64.ofNat (Format.double.ofQuotient (n < 0) n.natAbs 1)⟩

def decimalSize (n : Nat) : Nat :=
  (Nat.toDigits 10 n).length

/-- The float nearest to `digits * 10 ^ exponent`.  Exponents far outside the
range of the format are settled without computing the power. -/
def ofDecimal (negative : Bool) (digits : Nat) (exponent : Int) : Binary64 :=
  let size : Int := exponent + decimalSize digits
  let bits :=
    if digits = 0 ∨ size < -400 then Format.double.ofQuotient negative 0 1
    else if 400 < size then
      (if negative then Format.double.signBit else 0) + Format.double.infinity
    else
      Format.double.ofQuotient negative (digits * Nat.pow 10 exponent.toNat)
        (Nat.pow 10 (-exponent).toNat)
  ⟨UInt64.ofNat bits⟩

/-- The double with the value of a single; a NaN keeps its payload and is made
quiet. -/
def ofBinary32 (x : Binary32) : Binary64 :=
  let bits := x.bits.toNat
  let negative := Format.single.negative bits
  let sign := if negative then Format.double.signBit else 0
  match Format.single.magnitude bits with
  | .infinite => ⟨UInt64.ofNat (sign + Format.double.infinity)⟩
  | .nan =>
    let payload := bits % Nat.pow 2 22
    ⟨UInt64.ofNat (sign + Format.double.infinity + Nat.pow 2 51 + payload * Nat.pow 2 29)⟩
  | .finite significand exponent =>
    ⟨UInt64.ofNat
      (Format.double.ofQuotient negative (significand * Nat.pow 2 exponent.toNat)
        (Nat.pow 2 (-exponent).toNat))⟩

end Binary64

end TableLoad.Number
