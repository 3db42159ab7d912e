import Mathlib.Algebra.Order.Ring.Int
import TableLoad.Calendar.Date

/-!
# Days and their civil form

The civil form of a day names an existing day of the calendar, and is that of no other
day: the day's number is found again from year, month and day.
-/

set_option autoImplicit false

namespace TableLoad.Calendar

/-! ## Years -/

theorem daysBeforeYear_succ (year : Int) :
    daysBeforeYear (year + 1) = daysBeforeYear year + (if isLeapYear year then 366 else 365) := by
  simp only [daysBeforeYear, isLeapYear, Bool.and_eq_true, Bool.or_eq_true, decide_eq_true_eq,
    bne_iff_ne]
  split
  · omega
  · omega

theorem sum_monthLengths (year : Int) :
    ((monthLengths year).sum : Int) = if isLeapYear year then 366 else 365 := by
  simp only [monthLengths]
  split
  · rfl
  · rfl

/-- The estimate of the year is off by at most one, so one step mends it. -/
theorem yearOfDay_bounds (number : Int) :
    daysBeforeYear (yearOfDay number) < number ∧
      number ≤ daysBeforeYear (yearOfDay number + 1) := by
  simp only [yearOfDay]
  split
  · simp only [daysBeforeYear] at *
    omega
  · split
    · simp only [daysBeforeYear] at *
      omega
    · simp only [daysBeforeYear] at *
      omega

/-! ## Months -/

/-- What walking along months of the given lengths finds: the offset falls in the month
after those of `passed`. -/
structure MonthAt (lengths : List Nat) (offset passed day length : Nat) : Prop where
  lengthAt : lengths[passed]? = some length
  positive : 1 ≤ day
  inMonth : day ≤ length
  offset_eq : (lengths.take passed).sum + day = offset + 1

theorem walkMonths_finds (month : Nat) (lengths : List Nat) (offset : Nat)
    (inside : offset < lengths.sum) :
    ∃ passed day length, walkMonths month lengths offset = (month + passed, day) ∧
      MonthAt lengths offset passed day length := by
  induction lengths generalizing month offset with
  | nil => exact absurd inside (Nat.not_lt_zero offset)
  | cons length rest ih =>
    rw [walkMonths]
    by_cases here : offset < length
    · rw [if_pos here]
      exact ⟨0, offset + 1, length, rfl, rfl, by omega, here, Nat.zero_add _⟩
    · rw [if_neg here]
      rw [List.sum_cons] at inside
      obtain ⟨passed, day, found, walked, later⟩ := ih (month + 1) (offset - length) (by omega)
      refine ⟨passed + 1, day, found, ?_, later.lengthAt, later.positive, later.inMonth, ?_⟩
      · rw [walked, Nat.add_right_comm, Nat.add_assoc]
      · have rest_eq := later.offset_eq
        rw [List.take_succ_cons, List.sum_cons]
        omega

/-! ## Dates -/

namespace Date

theorem ofNumber_number (d : Date) : ofNumber? d.number = some d := by
  simp [ofNumber?, d.inRange]

theorem civil_spec (date : Date) :
    ∃ passed length, date.civil.month = passed + 1 ∧
      MonthAt (monthLengths date.civil.year)
        (date.number - daysBeforeYear date.civil.year - 1).toNat passed date.civil.day length ∧
      daysBeforeYear date.civil.year < date.number := by
  obtain ⟨after, before⟩ := yearOfDay_bounds date.number
  have inside : (date.number - daysBeforeYear (yearOfDay date.number) - 1).toNat <
      (monthLengths (yearOfDay date.number)).sum := by
    have whole := sum_monthLengths (yearOfDay date.number)
    rw [daysBeforeYear_succ] at before
    omega
  obtain ⟨passed, day, length, walked, found⟩ := walkMonths_finds 1 _ _ inside
  have civil : date.civil = ⟨yearOfDay date.number, 1 + passed, day⟩ := by
    rw [Date.civil, walked]
  rw [civil]
  exact ⟨passed, length, Nat.add_comm 1 passed, found, after⟩

theorem ofCivil_civil (date : Date) : ofCivil? date.civil = some date := by
  obtain ⟨passed, length, month, found, after⟩ := date.civil_spec
  have lengthAt : (monthLengths date.civil.year)[date.civil.month - 1]? = some length := by
    rw [month, Nat.add_sub_cancel]
    exact found.lengthAt
  have before : ((monthLengths date.civil.year).take passed).foldl Nat.add 0 =
      ((monthLengths date.civil.year).take passed).sum := List.sum_eq_foldl.symm
  have offset := found.offset_eq
  rw [ofCivil?, lengthAt, month]
  dsimp only
  rw [if_pos ⟨found.positive, found.inMonth⟩, before]
  have number : daysBeforeYear date.civil.year +
      ((monthLengths date.civil.year).take passed).sum + date.civil.day = date.number := by
    omega
  rw [number]
  exact date.ofNumber_number

theorem civil_bounds (date : Date) : date.civil.month < 100 ∧ date.civil.day < 100 := by
  obtain ⟨passed, length, month, found, _⟩ := date.civil_spec
  have twelve : (monthLengths date.civil.year).length = 12 := rfl
  have place := (List.getElem?_eq_some_iff.mp found.lengthAt).1
  have longest : ∀ days ∈ monthLengths date.civil.year, days ≤ 31 := by
    intro days member
    simp only [monthLengths, List.mem_cons, List.not_mem_nil, or_false] at member
    split at member
    · omega
    · omega
  have short := longest length (List.mem_of_getElem? found.lengthAt)
  have day := found.inMonth
  omega

end Date

end TableLoad.Calendar
