/-!
# Fixed-width numbers as bytes

Numbers in a batch are written most significant byte first; signed numbers in
two's complement.
-/

set_option autoImplicit false

namespace TableLoad.Batch

/-- The low `width` bytes of a number, most significant first. -/
def bigEndian : (width : Nat) → Nat → List UInt8
  | 0, _ => []
  | width + 1, n => bigEndian width (n / 256) ++ [UInt8.ofNat n]

def ofBigEndian (bytes : List UInt8) : Nat :=
  bytes.foldl (fun n b => 256 * n + b.toNat) 0

/-- Two's complement in `width` bytes. -/
def signedBytes (width : Nat) (n : Int) : List UInt8 :=
  bigEndian width (n % Int.pow 2 (8 * width)).toNat

def ofSignedBytes (bytes : List UInt8) : Int :=
  let n := ofBigEndian bytes
  if 2 * n < Nat.pow 2 (8 * bytes.length) then (n : Int) else n - Int.pow 2 (8 * bytes.length)

def splitExact : (count : Nat) → List UInt8 → Option (List UInt8 × List UInt8)
  | 0, bytes => some ([], bytes)
  | _ + 1, [] => none
  | count + 1, b :: rest => (splitExact count rest).map fun (taken, left) => (b :: taken, left)

theorem bigEndian_length (width n : Nat) : (bigEndian width n).length = width := by
  induction width generalizing n with
  | zero => rfl
  | succ width ih => simp [bigEndian, ih]

theorem ofBigEndian_append (bytes : List UInt8) (b : UInt8) :
    ofBigEndian (bytes ++ [b]) = 256 * ofBigEndian bytes + b.toNat := by
  simp [ofBigEndian]

theorem splitExact_append (taken rest : List UInt8) :
    splitExact taken.length (taken ++ rest) = some (taken, rest) := by
  induction taken with
  | nil => rfl
  | cons b taken ih => simp [splitExact, ih]

theorem eq_append_of_splitExact {count : Nat} {bytes taken rest : List UInt8}
    (split : splitExact count bytes = some (taken, rest)) :
    bytes = taken ++ rest ∧ taken.length = count := by
  induction count generalizing bytes taken with
  | zero =>
    simp only [splitExact, Option.some.injEq, Prod.mk.injEq] at split
    simp [← split.1, split.2]
  | succ count ih =>
    cases bytes with
    | nil => simp [splitExact] at split
    | cons b bytes =>
      simp only [splitExact, Option.map_eq_some_iff] at split
      obtain ⟨⟨front, left⟩, inner, equal⟩ := split
      simp only [Prod.mk.injEq] at equal
      obtain ⟨rfl, rfl⟩ := equal
      obtain ⟨whole, size⟩ := ih inner
      simp [whole, size]

end TableLoad.Batch
