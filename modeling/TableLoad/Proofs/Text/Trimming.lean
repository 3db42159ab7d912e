import Mathlib.Data.List.DropRight
import TableLoad.Proofs.Text.Digits
import TableLoad.Unicode.WhiteSpace

/-!
# White space around a text

What trimming leaves alone.  Signs and digits are no white space.
-/

set_option autoImplicit false

namespace TableLoad.Unicode

theorem trim_length_le (text : List Char) : (trim text).length ≤ text.length := by
  have front : (trimStart text).length ≤ text.length := (List.dropWhile_sublist _).length_le
  have back : (trim text).length ≤ (trimStart text).length :=
    (List.rdropWhile_prefix isWhiteSpace (trimStart text)).length_le
  exact Nat.le_trans back front

theorem trim_eq_nil_iff (text : List Char) :
    trim text = [] ↔ ∀ c ∈ text, isWhiteSpace c = true := by
  have again : trimStart (trimStart text) = trimStart text :=
    List.dropWhile_idempotent isWhiteSpace text
  calc trim text = []
    _ ↔ ∀ c ∈ trimStart text, isWhiteSpace c = true := List.rdropWhile_eq_nil_iff
    _ ↔ trimStart (trimStart text) = [] := List.dropWhile_eq_nil_iff.symm
    _ ↔ trimStart text = [] := by rw [again]
    _ ↔ ∀ c ∈ text, isWhiteSpace c = true := List.dropWhile_eq_nil_iff

theorem trimStart_cons (c : Char) (rest : List Char) (visible : isWhiteSpace c = false) :
    trimStart (c :: rest) = c :: rest :=
  List.dropWhile_cons_of_neg (by simp [visible])

theorem trim_eq_self (text : List Char)
    (first : ∀ c, text.head? = some c → isWhiteSpace c = false)
    (last : ∀ c, text.getLast? = some c → isWhiteSpace c = false) : trim text = text := by
  have front : trimStart text = text := by
    cases text with
    | nil => rfl
    | cons c rest => exact trimStart_cons c rest (first c rfl)
  have back : List.rdropWhile isWhiteSpace text = text := by
    apply List.rdropWhile_eq_self_iff.mpr
    intro present
    rw [last _ (List.getLast?_eq_some_getLast present)]
    exact Bool.false_ne_true
  rw [trim, front]
  exact back

/-- The characters between the exclamation mark and the tilde are no white space. -/
theorem not_whiteSpace_of_ascii (c : Char) (above : 33 ≤ c.toNat) (below : c.toNat ≤ 126) :
    isWhiteSpace c = false := by
  by_contra blank
  rw [Bool.not_eq_false] at blank
  obtain ⟨range, member, low, high⟩ := (whiteSpace.has_iff c).mp blank
  simp only [whiteSpace, List.mem_cons, List.not_mem_nil, or_false] at member
  rcases member with rfl | rfl | rfl | rfl | rfl | rfl | rfl | rfl | rfl | rfl
  all_goals
    dsimp only at low high
    omega

theorem not_whiteSpace_of_begins {c : Char} (begins : Digits.BeginsNumber c) :
    isWhiteSpace c = false := by
  rcases begins with rfl | rfl | digit
  · rfl
  · rfl
  · obtain ⟨above, below⟩ := (Digits.isDigit_iff c).mp digit
    exact not_whiteSpace_of_ascii c (by omega) (by omega)

end TableLoad.Unicode
