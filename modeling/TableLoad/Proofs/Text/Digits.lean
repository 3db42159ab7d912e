import Mathlib.Algebra.Order.Ring.Int
import TableLoad.Text.Digits

/-!
# Decimal digits of numbers

The digits of a number are digits, read back as the number and have no leading
zero unless the number is zero.  Zeros in front change neither.  Digits are taken
from the front of a text up to where they end.
-/

set_option autoImplicit false

namespace TableLoad.Digits

theorem isDigit_iff (c : Char) : isDigit c = true ↔ 48 ≤ c.toNat ∧ c.toNat ≤ 57 := by
  simp only [isDigit, Bool.and_eq_true, decide_eq_true_eq, Char.le_def, UInt32.le_iff_toNat_le]
  rfl

theorem ne_of_isDigit {c d : Char} (digit : isDigit c = true) (other : isDigit d = false) :
    c ≠ d := by
  rintro rfl
  rw [digit] at other
  cases other

theorem value_ofNat (n : Nat) : value 0 (ofNat n) = n :=
  Nat.ofDigitChars_ten_toDigits

theorem isDigit_ofNat (n : Nat) (c : Char) (member : c ∈ ofNat n) : isDigit c = true := by
  have digit := Nat.isDigit_of_mem_toDigits (by decide) (by decide) member
  simpa [isDigit, Char.isDigit, Char.le_def] using digit

theorem ofNat_small (n : Nat) (small : n < 10) : ofNat n = [Nat.digitChar n] :=
  Nat.toDigits_of_lt_base small

theorem ofNat_large (n : Nat) (large : 10 ≤ n) :
    ofNat n = ofNat (n / 10) ++ [Nat.digitChar (n % 10)] :=
  Nat.toDigits_of_base_le (by decide) large

theorem head_ofNat (n : Nat) (positive : 0 < n) :
    ∃ c rest, ofNat n = c :: rest ∧ c ≠ '0' := by
  induction n using Nat.strongRecOn with
  | ind n ih =>
    by_cases small : n < 10
    · refine ⟨Nat.digitChar n, [], ofNat_small n small, ?_⟩
      have all : ∀ m, m < 10 → 0 < m → Nat.digitChar m ≠ '0' := by decide
      exact all n small positive
    · obtain ⟨c, rest, whole, nonzero⟩ := ih (n / 10) (by omega) (by omega)
      refine ⟨c, rest ++ [Nat.digitChar (n % 10)], ?_, nonzero⟩
      rw [ofNat_large n (by omega), whole]
      rfl

theorem ofNat_ne_nil (n : Nat) : ofNat n ≠ [] := by
  have some : 0 < (ofNat n).length := Nat.length_toDigits_pos
  exact List.ne_nil_of_length_pos some

theorem ofNat_cons (n : Nat) : ∃ c rest, ofNat n = c :: rest ∧ isDigit c = true := by
  obtain ⟨c, rest, text⟩ := List.exists_cons_of_ne_nil (ofNat_ne_nil n)
  exact ⟨c, rest, text, isDigit_ofNat n c (text ▸ List.mem_cons_self)⟩

theorem signed_natAbs (n : Int) :
    (if decide (n < 0) = true then -(n.natAbs : Int) else n.natAbs) = n := by
  by_cases negative : n < 0
  · rw [if_pos (decide_eq_true negative)]
    omega
  · rw [if_neg (by simp [negative])]
    omega

/-! ## Zeros in front -/

theorem value_append (prior : Nat) (first later : List Char) :
    value prior (first ++ later) = value (value prior first) later :=
  List.foldl_append

theorem value_padZeros (width : Nat) (digits : List Char) :
    value 0 (padZeros width digits) = value 0 digits := by
  have zeros : ∀ count, value 0 (List.replicate count '0') = 0 := by
    intro count
    induction count with
    | zero => rfl
    | succ count ih => exact ih
  rw [padZeros, value_append, zeros]

theorem isDigit_padZeros (width : Nat) (digits : List Char)
    (all : ∀ c ∈ digits, isDigit c = true) (c : Char) (member : c ∈ padZeros width digits) :
    isDigit c = true := by
  rcases List.mem_append.mp member with zero | digit
  · rw [List.eq_of_mem_replicate zero]
    rfl
  · exact all c digit

theorem length_padZeros (width : Nat) (digits : List Char) :
    (padZeros width digits).length = max width digits.length := by
  rw [padZeros, List.length_append, List.length_replicate]
  omega

theorem padZeros_of_le {width : Nat} {digits : List Char} (long : width ≤ digits.length) :
    padZeros width digits = digits := by
  rw [padZeros, Nat.sub_eq_zero_of_le long]
  rfl

theorem value_padded (width n : Nat) : value 0 (padded width n) = n := by
  rw [padded, value_padZeros, value_ofNat]

theorem isDigit_padded (width n : Nat) (c : Char) (member : c ∈ padded width n) :
    isDigit c = true :=
  isDigit_padZeros width (ofNat n) (isDigit_ofNat n) c member

theorem length_padded (width n : Nat) (positive : 0 < width) (small : n < 10 ^ width) :
    (padded width n).length = width := by
  have short : (ofNat n).length ≤ width :=
    (Nat.length_toDigits_le_iff (by decide) positive).mpr small
  rw [padded, length_padZeros]
  omega

theorem padded_ne_nil (width n : Nat) : padded width n ≠ [] := by
  have some : 0 < (ofNat n).length := Nat.length_toDigits_pos
  rw [← List.length_pos_iff, padded, length_padZeros]
  omega

theorem padded_cons (width n : Nat) :
    ∃ c rest, padded width n = c :: rest ∧ isDigit c = true := by
  obtain ⟨c, rest, text⟩ := List.exists_cons_of_ne_nil (padded_ne_nil width n)
  exact ⟨c, rest, text, isDigit_padded width n c (text ▸ List.mem_cons_self)⟩

/-! ## Digits at the front -/

def BeginsNumber (c : Char) : Prop :=
  c = '-' ∨ c = '+' ∨ isDigit c = true

def EndsDigits (rest : List Char) : Prop :=
  ∀ c, rest.head? = some c → isDigit c = false

theorem endsDigits_cons {c : Char} (other : isDigit c = false) (rest : List Char) :
    EndsDigits (c :: rest) := by
  intro d first
  cases first
  exact other

theorem takeUpTo_append (limit : Nat) (digits rest : List Char)
    (all : ∀ c ∈ digits, isDigit c = true) (room : digits.length ≤ limit)
    (stops : digits.length = limit ∨ EndsDigits rest) :
    takeUpTo limit (digits ++ rest) = (digits, rest) := by
  induction digits generalizing limit with
  | nil =>
    cases limit with
    | zero => rfl
    | succ limit =>
      cases rest with
      | nil => rfl
      | cons c rest =>
        have other : isDigit c = false := by
          rcases stops with none | ends
          · cases none
          · exact ends c rfl
        rw [List.nil_append, takeUpTo, other, if_neg Bool.false_ne_true]
  | cons c digits ih =>
    cases limit with
    | zero => cases room
    | succ limit =>
      rw [List.cons_append, takeUpTo, if_pos (all c List.mem_cons_self),
        ih limit (fun d member => all d (List.mem_cons_of_mem c member)) (Nat.le_of_succ_le_succ room)
          (stops.imp_left Nat.succ.inj)]

theorem takeAll_append (digits rest : List Char) (all : ∀ c ∈ digits, isDigit c = true)
    (ends : EndsDigits rest) : takeAll (digits ++ rest) = (digits, rest) := by
  have room : digits.length ≤ (digits ++ rest).length := by simp
  exact takeUpTo_append _ digits rest all room (.inr ends)

theorem read_append (limit : Nat) (digits rest : List Char) (present : digits ≠ [])
    (all : ∀ c ∈ digits, isDigit c = true) (room : digits.length ≤ limit)
    (stops : digits.length = limit ∨ EndsDigits rest) :
    read? limit (digits ++ rest) = some (value 0 digits, rest) := by
  rw [read?, takeUpTo_append limit digits rest all room stops]
  cases digits with
  | nil => exact absurd rfl present
  | cons c digits => rfl

theorem read_within (limit : Nat) (digits rest : List Char) (positive : 0 < limit)
    (longer : limit < digits.length) (all : ∀ c ∈ digits, isDigit c = true) :
    ∃ n c more, read? limit (digits ++ rest) = some (n, c :: more) ∧ isDigit c = true := by
  obtain ⟨c, more, next⟩ : ∃ c more, digits.drop limit = c :: more := by
    apply List.exists_cons_of_ne_nil
    rw [← List.length_pos_iff, List.length_drop]
    omega
  have size : (digits.take limit).length = limit := by
    rw [List.length_take]
    omega
  have parted : digits ++ rest = digits.take limit ++ c :: (more ++ rest) := by
    rw [← List.cons_append, ← next, ← List.append_assoc, List.take_append_drop]
  refine ⟨value 0 (digits.take limit), c, more ++ rest, ?_, ?_⟩
  · rw [parted]
    apply read_append limit
    · rw [← List.length_pos_iff, size]
      exact positive
    · exact fun d member => all d (List.mem_of_mem_take member)
    · exact Nat.le_of_eq size
    · exact .inl size
  · apply all c
    apply List.mem_of_mem_drop (i := limit)
    rw [next]
    exact List.mem_cons_self

theorem read_padded (width n : Nat) (positive : 0 < width) (small : n < 10 ^ width)
    (rest : List Char) : read? width (padded width n ++ rest) = some (n, rest) := by
  have size := length_padded width n positive small
  rw [read_append width (padded width n) rest (padded_ne_nil width n) (isDigit_padded width n)
    (Nat.le_of_eq size) (.inl size), value_padded]

end TableLoad.Digits
