/-!
# Code point ranges

Character properties are stored as lists of closed code point ranges.  A
property holds of a character exactly when one of its ranges contains the code
point of the character.
-/

set_option autoImplicit false

namespace TableLoad.Unicode

abbrev Ranges := List (Nat × Nat)

def Ranges.has (ranges : Ranges) (c : Char) : Bool :=
  ranges.any fun range => range.1 ≤ c.toNat && c.toNat ≤ range.2

theorem Ranges.has_iff (ranges : Ranges) (c : Char) :
    ranges.has c = true ↔
      ∃ range ∈ ranges, range.1 ≤ c.toNat ∧ c.toNat ≤ range.2 := by
  simp [Ranges.has]

end TableLoad.Unicode
