import TableLoad.DataType.Basic

/-!
# Joining column types

The narrowest type that holds the values of two types.  Numbers widen along
boolean, int, bigint, float, double; decimals grow in both directions up to the
largest precision; everything else only joins with its like, part by part.
-/

set_option autoImplicit false

namespace TableLoad

def maxPrecision : Nat := 38

namespace Atom

/-- Place in the chain of widening numbers. -/
def rank? : Atom → Option Nat
  | .boolean => some 0
  | .int => some 1
  | .bigInt => some 2
  | .float => some 3
  | .double => some 4
  | _ => none

/-- The narrowest decimal with the larger scale and the larger number of digits
before the point; none past the largest precision. -/
def joinDecimals? (p₁ s₁ p₂ s₂ : UInt8) : Option Atom :=
  let scale := max s₁ s₂
  let precision := max (p₁.toNat - s₁.toNat) (p₂.toNat - s₂.toNat) + scale.toNat
  if precision ≤ maxPrecision then some (.decimal (UInt8.ofNat precision) scale) else none

def join? (a b : Atom) : Option Atom :=
  if a = b then some a
  else
    match a.rank?, b.rank? with
    | some i, some j => some (if j ≤ i then a else b)
    | _, _ =>
      match a, b with
      | .decimal p₁ s₁, .decimal p₂ s₂ => joinDecimals? p₁ s₁ p₂ s₂
      | _, _ => none

end Atom

namespace DataType

def unobserved : DataType := .atom .null false

mutual

/-- The narrowest type that holds the values of both types. -/
def join? : DataType → DataType → Option DataType
  | .atom .null m, t => some (t.withNullable (m || t.nullable))
  | s, .atom .null n => some (s.withNullable (s.nullable || n))
  | .atom a m, .atom b n => (a.join? b).map (.atom · (m || n))
  | .array a m, .array b n => (join? a b).map (.array · (m || n))
  | .map ka va m, .map kb vb n =>
    match join? ka kb, join? va vb with
    | some key, some value => some (.map key value (m || n))
    | _, _ => none
  | .row fs m, .row gs n => (joinFields? fs gs).map (.row · (m || n))
  | _, _ => none

def joinFields? : List (String × DataType) → List (String × DataType) →
    Option (List (String × DataType))
  | [], [] => some []
  | (a, s) :: fs, (b, t) :: gs =>
    if a = b then
      match join? s t, joinFields? fs gs with
      | some type, some rest => some ((a, type) :: rest)
      | _, _ => none
    else none
  | _, _ => none

end

/-- Values of the narrower type can be stored without changing the type, nulls
apart. -/
def accepts (type narrower : DataType) : Bool :=
  match type.join? narrower with
  | some joined => joined.withNullable type.nullable = type
  | none => false

end DataType

end TableLoad
