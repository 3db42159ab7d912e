/-!
# Rounding quotients

The integer nearest to a quotient of naturals; a quotient halfway between two
integers goes to the even one.
-/

set_option autoImplicit false

namespace TableLoad.Number

/-- The integer nearest to `num / den`, the even one of two. -/
def roundDiv (num den : Nat) : Nat :=
  let quotient := num / den
  let twice := 2 * (num % den)
  if den < twice ∨ (twice = den ∧ quotient % 2 = 1) then quotient + 1 else quotient

end TableLoad.Number
