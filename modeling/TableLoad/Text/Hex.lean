/-!
# Hexadecimal text

Lower-case hexadecimal digits of numbers and of byte strings.
-/

set_option autoImplicit false

namespace TableLoad.Hex

def digit (n : Nat) : Char :=
  if n < 10 then Char.ofNat (48 + n) else Char.ofNat (87 + n)

def ofBytes : List UInt8 → List Char
  | [] => []
  | b :: rest => digit (b.toNat / 16) :: digit (b.toNat % 16) :: ofBytes rest

/-- Exactly `width` digits of a number, the most significant first; higher
digits are dropped. -/
def fixed : (width : Nat) → Nat → List Char
  | 0, _ => []
  | width + 1, n => fixed width (n / 16) ++ [digit (n % 16)]

def ofNat (n : Nat) : List Char :=
  Nat.toDigits 16 n

def value? (c : Char) : Option Nat :=
  if '0' ≤ c ∧ c ≤ '9' then some (c.toNat - 48)
  else if 'a' ≤ c ∧ c ≤ 'f' then some (c.toNat - 87)
  else if 'A' ≤ c ∧ c ≤ 'F' then some (c.toNat - 55)
  else none

def toBytes? : List Char → Option (List UInt8)
  | [] => some []
  | [_] => none
  | high :: low :: rest => do
    let h ← value? high
    let l ← value? low
    return UInt8.ofNat (16 * h + l) :: (← toBytes? rest)

def toNat? (prior : Nat) : List Char → Option Nat
  | [] => some prior
  | c :: rest => do
    let d ← value? c
    toNat? (16 * prior + d) rest

end TableLoad.Hex
