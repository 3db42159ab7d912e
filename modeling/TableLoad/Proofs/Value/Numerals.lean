import Mathlib.Data.List.TakeWhile
import TableLoad.Proofs.Text.Digits
import TableLoad.Value.Decimal

/-!
# Texts of decimals

A decimal is written as a numeral in which its unscaled integer and its scale can be read
off again, so different decimals have different texts.
-/

set_option autoImplicit false

namespace TableLoad

/-- A number as it is written: perhaps a minus sign, digits, and digits after a point. -/
structure Numeral where
  negative : Bool
  whole : List Char
  fraction : List Char
deriving DecidableEq, Repr

namespace Numeral

def text (numeral : Numeral) : List Char :=
  (if numeral.negative then ['-'] else []) ++ numeral.whole ++
    (if numeral.fraction = [] then [] else '.' :: numeral.fraction)

/-- Digits stand before the point, with a zero in front only if it is the last of them. -/
structure IsProper (numeral : Numeral) : Prop where
  present : numeral.whole ≠ []
  wholeDigits : ∀ c ∈ numeral.whole, Digits.isDigit c = true
  fractionDigits : ∀ c ∈ numeral.fraction, Digits.isDigit c = true
  noLeadingZero : numeral.whole.head? = some '0' → numeral.whole = ['0']

/-- The integer written by all digits, without the point. -/
def unscaled (numeral : Numeral) : Int :=
  let n := Digits.value 0 (numeral.whole ++ numeral.fraction)
  if numeral.negative then -(n : Int) else n

def ofUnsigned (negative : Bool) (text : List Char) : Numeral :=
  ⟨negative, text.takeWhile (· ≠ '.'), (text.dropWhile (· ≠ '.')).tail⟩

def ofText : List Char → Numeral
  | '-' :: rest => ofUnsigned true rest
  | text => ofUnsigned false text

theorem ofUnsigned_append (negative : Bool) (whole rest : List Char)
    (digits : ∀ c ∈ whole, Digits.isDigit c = true) (after : rest = [] ∨ rest.head? = some '.') :
    ofUnsigned negative (whole ++ rest) = ⟨negative, whole, rest.tail⟩ := by
  have plain : ∀ c ∈ whole, (decide (c ≠ '.')) = true := fun c member =>
    decide_eq_true (Digits.ne_of_isDigit (digits c member) rfl)
  have pointed : rest.takeWhile (· ≠ '.') = [] ∧ rest.dropWhile (· ≠ '.') = rest := by
    cases rest with
    | nil => exact ⟨rfl, rfl⟩
    | cons c rest =>
      rcases after with none | point
      · cases none
      · cases point
        exact ⟨rfl, rfl⟩
  rw [ofUnsigned, List.takeWhile_append_of_pos plain, List.dropWhile_append_of_pos plain,
    pointed.1, pointed.2, List.append_nil]

theorem ofText_text {numeral : Numeral} (proper : numeral.IsProper) :
    ofText numeral.text = numeral := by
  obtain ⟨negative, whole, fraction⟩ := numeral
  have pointed : (if fraction = [] then [] else '.' :: fraction) = [] ∨
      (if fraction = [] then [] else '.' :: fraction).head? = some '.' := by
    split
    · exact .inl rfl
    · exact .inr rfl
  have after : (if fraction = [] then [] else '.' :: fraction).tail = fraction := by
    split
    · rename_i none
      exact none.symm
    · rfl
  have unsigned := ofUnsigned_append negative whole _ proper.wholeDigits pointed
  rw [after] at unsigned
  cases negative with
  | true => exact unsigned
  | false =>
    rw [text, if_neg Bool.false_ne_true, List.nil_append]
    cases whole with
    | nil => exact absurd rfl proper.present
    | cons c whole =>
      have unsignedFirst : c ≠ '-' :=
        Digits.ne_of_isDigit (proper.wholeDigits c List.mem_cons_self) rfl
      rw [List.cons_append, ofText]
      · exact unsigned
      · rintro rest same
        exact unsignedFirst (List.cons.inj same).1

end Numeral

namespace Decimal

/-- The decimal as it is written: its digits with zeros in front, so that one stands before
the point. -/
def numeral (d : Decimal) : Numeral :=
  let padded := Digits.padded (d.scale.toNat + 1) d.unscaled.natAbs
  let places := padded.length - d.scale.toNat
  ⟨d.unscaled < 0, padded.take places, padded.drop places⟩

theorem scale_lt_padded (d : Decimal) :
    d.scale.toNat < (Digits.padded (d.scale.toNat + 1) d.unscaled.natAbs).length := by
  rw [Digits.padded, Digits.length_padZeros]
  omega

theorem length_fraction (d : Decimal) : d.numeral.fraction.length = d.scale.toNat := by
  have longer := d.scale_lt_padded
  simp only [numeral, List.length_drop]
  omega

theorem text_eq (d : Decimal) : d.text = d.numeral.text := by
  have places := d.length_fraction
  rw [text, Numeral.text]
  by_cases whole : d.scale.toNat = 0
  · have digits : Digits.padded 1 d.unscaled.natAbs = Digits.ofNat d.unscaled.natAbs :=
      Digits.padZeros_of_le (List.length_pos_iff.mpr (Digits.ofNat_ne_nil _))
    have none : d.numeral.fraction = [] := List.length_eq_zero_iff.mp (places.trans whole)
    rw [if_pos whole, if_pos none, List.append_nil]
    simp only [numeral, whole, Nat.zero_add, Nat.sub_zero, List.take_length, digits,
      decide_eq_true_eq]
  · have some : d.numeral.fraction ≠ [] := by
      rw [← List.length_pos_iff, places]
      omega
    rw [if_neg whole, if_neg some]
    simp only [numeral, Digits.padded, decide_eq_true_eq, List.append_assoc]

theorem numeral_proper (d : Decimal) : d.numeral.IsProper := by
  have longer := d.scale_lt_padded
  have digits := Digits.isDigit_padded (d.scale.toNat + 1) d.unscaled.natAbs
  have size : d.numeral.whole.length =
      (Digits.padded (d.scale.toNat + 1) d.unscaled.natAbs).length - d.scale.toNat := by
    simp only [numeral, List.length_take]
    omega
  constructor
  · rw [← List.length_pos_iff, size]
    omega
  · exact fun c member => digits c (List.mem_of_mem_take member)
  · exact fun c member => digits c (List.mem_of_mem_drop member)
  · intro zero
    by_cases short : (Digits.ofNat d.unscaled.natAbs).length ≤ d.scale.toNat
    · -- Only one digit stands before the point.
      have single : d.numeral.whole.length = 1 := by
        rw [size, Digits.padded, Digits.length_padZeros]
        omega
      obtain ⟨c, only⟩ := List.length_eq_one_iff.mp single
      rw [only] at zero ⊢
      cases zero
      rfl
    · have unpadded : Digits.padded (d.scale.toNat + 1) d.unscaled.natAbs =
          Digits.ofNat d.unscaled.natAbs := Digits.padZeros_of_le (by omega)
      have first : (Digits.ofNat d.unscaled.natAbs).head? = some '0' := by
        rw [← unpadded, ← zero]
        simp only [numeral]
        rw [List.head?_take, if_neg (by omega)]
      have null : d.unscaled.natAbs = 0 := by
        by_contra positive
        obtain ⟨c, rest, digits, nonzero⟩ :=
          Digits.head_ofNat d.unscaled.natAbs (Nat.pos_of_ne_zero positive)
        rw [digits] at first
        exact nonzero (Option.some.inj first)
      have places : d.scale.toNat = 0 := by
        rw [null] at short
        have one : (Digits.ofNat 0).length = 1 := rfl
        omega
      simp only [numeral, places, null]
      rfl

theorem numeral_unscaled (d : Decimal) : d.numeral.unscaled = d.unscaled := by
  have together : d.numeral.whole ++ d.numeral.fraction =
      Digits.padded (d.scale.toNat + 1) d.unscaled.natAbs := List.take_append_drop _ _
  rw [Numeral.unscaled, together, Digits.value_padded]
  exact Digits.signed_natAbs d.unscaled

/-- The text of a decimal is a proper numeral, with a minus sign exactly if the decimal is
negative and with as many digits after the point as its scale says.  Read as a numeral it
gives back the unscaled integer and the scale, so no two decimals have one text. -/
theorem decimal_text_faithful :
    (∀ d : Decimal, ∃ numeral : Numeral, d.text = numeral.text ∧ numeral.IsProper ∧
      (numeral.negative = true ↔ d.unscaled < 0) ∧
      numeral.fraction.length = d.scale.toNat ∧
      (Numeral.ofText d.text).unscaled = d.unscaled ∧
      (Numeral.ofText d.text).fraction.length = d.scale.toNat) ∧
    Function.Injective Decimal.text := by
  have readBack : ∀ d : Decimal, Numeral.ofText d.text = d.numeral := by
    intro d
    rw [text_eq, Numeral.ofText_text d.numeral_proper]
  constructor
  · intro d
    refine ⟨d.numeral, d.text_eq, d.numeral_proper, decide_eq_true_iff, d.length_fraction, ?_, ?_⟩
    · rw [readBack, numeral_unscaled]
    · rw [readBack, length_fraction]
  · intro d e same
    have alike : d.numeral = e.numeral := by
      rw [← readBack d, same, readBack e]
    have unscaled : d.unscaled = e.unscaled := by
      rw [← numeral_unscaled d, alike, numeral_unscaled e]
    have scale : d.scale = e.scale := by
      apply UInt8.toNat_inj.mp
      rw [← length_fraction d, alike, length_fraction e]
    cases d
    cases e
    cases unscaled
    cases scale
    rfl

end Decimal

end TableLoad
