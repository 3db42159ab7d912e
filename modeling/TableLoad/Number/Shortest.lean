import TableLoad.Number.Binary

/-!
# Shortest decimal text

A finite float is written with the fewest digits that read back as the same
float; of two such decimals the nearer is taken.  The text is positional: it
has no exponent and no trailing zeros after the point.
-/

set_option autoImplicit false

namespace TableLoad.Number

structure Scaled where
  digits : Nat
  exponent : Int
deriving DecidableEq, Repr

namespace Scaled

/-- `n * 10 ^ k` and `x * 2 ^ q` on a common integer scale, in this order. -/
def aligned (n : Nat) (k : Int) (x : Nat) (q : Int) : Nat × Nat :=
  (n * Nat.pow 10 k.toNat * Nat.pow 2 (-q).toNat, x * Nat.pow 2 q.toNat * Nat.pow 10 (-k).toNat)

/-- The integer part of `x * 2 ^ q / 10 ^ k`. -/
def gridFloor (k : Int) (x : Nat) (q : Int) : Nat :=
  (x * Nat.pow 2 q.toNat * Nat.pow 10 (-k).toNat) / (Nat.pow 10 k.toNat * Nat.pow 2 (-q).toNat)

end Scaled

/-- The reals that round to a float, as multiples of a power of two.  The ends
belong to it exactly when `closed`. -/
structure Interval where
  low : Nat
  mid : Nat
  high : Nat
  place : Int
  closed : Bool
deriving DecidableEq, Repr

namespace Interval

/-- The interval of the float `significand * 2 ^ exponent`; below a power of two
the floats are twice as dense. -/
def ofFloat (format : Format) (significand : Nat) (exponent : Int) : Interval :=
  let denser := significand = Nat.pow 2 format.fractionBits ∧ format.leastExponent < exponent
  { low := if denser then 4 * significand - 1 else 4 * significand - 2
    mid := 4 * significand
    high := 4 * significand + 2
    place := exponent - 2
    closed := significand % 2 = 0 }

def holds (interval : Interval) (n : Nat) (k : Int) : Bool :=
  let low := Scaled.aligned n k interval.low interval.place
  let high := Scaled.aligned n k interval.high interval.place
  if interval.closed then low.2 ≤ low.1 && high.1 ≤ high.2
  else low.2 < low.1 && high.1 < high.2

/-- `n + 1` is at least as near to the middle as `n` on the grid of `10 ^ k`. -/
def upperNearer (interval : Interval) (n : Nat) (k : Int) : Bool :=
  let pair := Scaled.aligned (2 * n + 1) k (2 * interval.mid) interval.place
  pair.1 ≤ pair.2

/-- The better of the two grid neighbours of the middle that lies in the
interval. -/
def onGrid? (interval : Interval) (k : Int) : Option Scaled :=
  let lower := Scaled.gridFloor k interval.mid interval.place
  let upper := lower + 1
  match interval.holds lower k, interval.holds upper k with
  | true, true => some ⟨if interval.upperNearer lower k then upper else lower, k⟩
  | true, false => some ⟨lower, k⟩
  | false, true => some ⟨upper, k⟩
  | false, false => none

/-- The first grid with a hit, from coarse to fine. -/
def search (interval : Interval) : (grids : Nat) → (k : Int) → Scaled
  | 0, k => ⟨Scaled.gridFloor k interval.mid interval.place, k⟩
  | grids + 1, k =>
    match interval.onGrid? k with
    | some found => found
    | none => search interval grids (k - 1)

end Interval

/-- The power of ten of the leading digit of `x * 2 ^ q`, found by stepping from
an estimate. -/
def leadingPower (x : Nat) (q : Int) : Int :=
  let estimate : Int := (((x.log2 : Int) + q) * 1233) / 4096
  if Scaled.gridFloor (estimate + 1) x q = 0 then
    if Scaled.gridFloor estimate x q = 0 then estimate - 1 else estimate
  else estimate + 1

/-- The shortest decimal of a positive finite float.  The coarsest grid is that of
the next power of ten, which the float may stand for. -/
def shortest (format : Format) (significand : Nat) (exponent : Int) : Scaled :=
  let interval := Interval.ofFloat format significand exponent
  interval.search 18 (leadingPower interval.mid interval.place + 1)

def Scaled.positional (decimal : Scaled) : List Char :=
  let digits := Nat.toDigits 10 decimal.digits
  if 0 ≤ decimal.exponent then
    digits ++ List.replicate decimal.exponent.toNat '0'
  else
    let places := (-decimal.exponent).toNat
    let padded := List.replicate (places + 1 - digits.length) '0' ++ digits
    let whole := padded.length - places
    padded.take whole ++ '.' :: padded.drop whole

def Format.text (format : Format) (bits : Nat) : String :=
  let sign := if format.negative bits then "-" else ""
  match format.magnitude bits with
  | .nan => "NaN"
  | .infinite => sign ++ "inf"
  | .finite 0 _ => sign ++ "0"
  | .finite significand exponent =>
    sign ++ String.ofList (shortest format significand exponent).positional

def Binary32.text (x : Binary32) : String :=
  Format.single.text x.bits.toNat

def Binary64.text (x : Binary64) : String :=
  Format.double.text x.bits.toNat

end TableLoad.Number
