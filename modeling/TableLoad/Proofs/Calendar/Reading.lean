import TableLoad.Calendar.Pattern
import TableLoad.Calendar.Text
import TableLoad.Proofs.Calendar.Clock
import TableLoad.Proofs.Text.Digits
import TableLoad.Proofs.Text.Trimming

/-!
# Reading dates and times as they are written

The parts of a pattern read the parts of a written date or time one after the other, and
what they read together is the date or time that was written.
-/

set_option autoImplicit false

namespace TableLoad.Calendar

/-! ## Years -/

theorem readYear_of_digit {c : Char} (digit : Digits.isDigit c = true) (rest : List Char) :
    readYear? (c :: rest) =
      (Digits.read? 4 (c :: rest)).map fun (n, rest) => ((n : Int), rest) := by
  rw [readYear?]
  · rintro text same
    cases same
    cases digit
  · rintro text same
    cases same
    cases digit

/-- Without a sign a year has exactly four digits; behind a sign its digits go on up to
the next other character. -/
theorem readYear_yearText (year : Int) (rest : List Char) (ends : Digits.EndsDigits rest) :
    readYear? (yearText year ++ rest) = some (year, rest) := by
  have signed : Digits.read? (Digits.padded 4 year.natAbs ++ rest).length
      (Digits.padded 4 year.natAbs ++ rest) = some (year.natAbs, rest) := by
    rw [Digits.read_append _ _ rest (Digits.padded_ne_nil 4 _) (Digits.isDigit_padded 4 _)
      (by simp) (.inr ends), Digits.value_padded]
  have found : ∀ n : Int, n = year → some (n, rest) = some (year, rest) := by
    rintro n rfl
    rfl
  rw [yearText]
  by_cases plain : 0 ≤ year ∧ year ≤ 9999
  · have number := Digits.read_padded 4 year.natAbs (by decide) (by omega) rest
    obtain ⟨c, more, digits, digit⟩ := Digits.padded_cons 4 year.natAbs
    rw [digits, List.cons_append] at number
    rw [if_pos plain, digits, List.cons_append, readYear_of_digit digit, number]
    exact found year.natAbs (by omega)
  · rw [if_neg plain]
    by_cases negative : year < 0
    · rw [if_pos negative, List.cons_append, readYear?, signed]
      exact found (-year.natAbs) (by omega)
    · rw [if_neg negative, List.cons_append, readYear?, signed]
      exact found year.natAbs (by omega)

theorem yearText_cons (year : Int) :
    ∃ c rest, yearText year = c :: rest ∧ Digits.BeginsNumber c := by
  rw [yearText]
  split
  · obtain ⟨c, rest, digits, digit⟩ := Digits.padded_cons 4 year.natAbs
    exact ⟨c, rest, digits, .inr (.inr digit)⟩
  · split
    · exact ⟨'-', _, rfl, .inl rfl⟩
    · exact ⟨'+', _, rfl, .inr (.inl rfl)⟩

/-! ## Parts -/

section Parts

variable (reading : Reading) (rest : List Char)

theorem Pattern.read_cons {reading next : Reading} {part : Part} {text rest : List Char}
    (read : part.read? reading text = some (next, rest)) (parts : List Part) :
    Pattern.read? reading (part :: parts) text = Pattern.read? next parts rest := by
  rw [Pattern.read?, read]

theorem Pattern.read_literal (c : Char) (parts : List Part) :
    Pattern.read? reading (.literal c :: parts) (c :: rest) = Pattern.read? reading parts rest :=
  Pattern.read_cons (by rw [Part.read?, if_pos rfl]) parts

theorem Pattern.read_other {c d : Char} (different : c ≠ d) (parts : List Part) :
    Pattern.read? reading (.literal c :: parts) (d :: rest) = none := by
  rw [Pattern.read?, Part.read?, if_neg different]

theorem Part.read_year (year : Int) (ends : Digits.EndsDigits rest) :
    Part.read? reading (yearText year ++ rest) .year =
      some ({ reading with year }, rest) := by
  have bare : Unicode.trimStart (yearText year ++ rest) = yearText year ++ rest := by
    obtain ⟨c, more, text, begins⟩ := yearText_cons year
    rw [text, List.cons_append,
      Unicode.trimStart_cons _ _ (Unicode.not_whiteSpace_of_begins begins)]
  rw [Part.read?, bare, readYear_yearText year rest ends]
  rfl

theorem trimStart_padded (width n : Nat) :
    Unicode.trimStart (Digits.padded width n ++ rest) = Digits.padded width n ++ rest := by
  obtain ⟨c, more, digits, digit⟩ := Digits.padded_cons width n
  rw [digits, List.cons_append,
    Unicode.trimStart_cons _ _ (Unicode.not_whiteSpace_of_begins (.inr (.inr digit)))]

theorem Part.read_field (which : Field) {n : Nat} (small : n < 100) :
    Part.read? reading (Digits.padded 2 n ++ rest) (.field which) =
      some (reading.set n which, rest) := by
  rw [Part.read?, trimStart_padded, Digits.read_padded 2 n (by decide) small]
  rfl

theorem Part.read_blank (width n : Nat) :
    Part.read? reading (' ' :: (Digits.padded width n ++ rest)) .blank =
      some (reading, Digits.padded width n ++ rest) := by
  have dropped : Unicode.trimStart (' ' :: (Digits.padded width n ++ rest)) =
      Unicode.trimStart (Digits.padded width n ++ rest) := List.dropWhile_cons_of_pos rfl
  rw [Part.read?, dropped, trimStart_padded]

end Parts

/-! ## Dates -/

def dated (parts : Pattern) : Pattern :=
  .year :: .literal '-' :: .field .month :: .literal '-' :: .field .day :: parts

theorem read_dated (date : Date) (parts : Pattern) (rest : List Char) :
    Pattern.read? Reading.start (dated parts) (date.text ++ rest) =
      Pattern.read? ⟨date.civil.year, date.civil.month, date.civil.day, 0, 0, 0, 0⟩ parts rest := by
  obtain ⟨month, day⟩ := date.civil_bounds
  simp only [Date.text, Civil.text, List.append_assoc, List.cons_append]
  rw [dated, Pattern.read_cons (Part.read_year _ _ _ (Digits.endsDigits_cons rfl _)),
    Pattern.read_literal, Pattern.read_cons (Part.read_field _ _ .month month),
    Pattern.read_literal, Pattern.read_cons (Part.read_field _ _ .day day)]
  rfl

/-! ## Times -/

namespace TimeOfDay

def shownSecond (time : TimeOfDay) : Nat :=
  time.seconds % 60 + (if nanosPerSecond ≤ time.nanos then 1 else 0)

def shownNanos (time : TimeOfDay) : Nat :=
  if nanosPerSecond ≤ time.nanos then time.nanos - nanosPerSecond else time.nanos

theorem text_eq (time : TimeOfDay) :
    time.text = Digits.padded 2 (time.seconds / 3600) ++ ':' ::
      (Digits.padded 2 (time.seconds / 60 % 60) ++ ':' ::
        (Digits.padded 2 time.shownSecond ++ fractionText time.shownNanos)) := by
  simp only [text, List.append_assoc, List.cons_append]
  rfl

theorem shown_bounds (time : TimeOfDay) :
    time.seconds / 3600 < 24 ∧ time.shownSecond ≤ 60 ∧ time.shownNanos < nanosPerSecond := by
  obtain ⟨day, within⟩ := time.valid
  rw [shownSecond, shownNanos]
  split
  · omega
  · omega

theorem shown_valid {time : TimeOfDay} (off : ¬time.IsOnClock) :
    IsTime (time.seconds + 1) (time.nanos - nanosPerSecond) := by
  obtain ⟨day, within⟩ := time.valid
  simp only [IsOnClock, not_or, nanosPerSecond] at off
  simp only [IsTime, nanosPerSecond] at within ⊢
  omega

/-- The time that a clock shows: a stretched second that is not the last of its minute
shows as the one after it. -/
def shown (time : TimeOfDay) : TimeOfDay :=
  if off : ¬time.IsOnClock then ⟨time.seconds + 1, time.nanos - nanosPerSecond, shown_valid off⟩
  else time

theorem shown_of_isOnClock {time : TimeOfDay} (on : time.IsOnClock) : time.shown = time := by
  rw [shown, dif_neg (not_not_intro on)]

theorem shown_eq_iff (time : TimeOfDay) : time.shown = time ↔ time.IsOnClock := by
  refine ⟨fun same => ?_, shown_of_isOnClock⟩
  by_contra off
  rw [shown, dif_pos off] at same
  have seconds := congrArg TimeOfDay.seconds same
  exact absurd seconds (Nat.succ_ne_self _)

theorem shown_isOnClock (time : TimeOfDay) : time.shown.IsOnClock := by
  obtain ⟨_, within⟩ := time.valid
  by_cases on : time.IsOnClock
  · rwa [shown_of_isOnClock on]
  · rw [shown, dif_pos on]
    refine .inl ?_
    dsimp only
    omega

/-- A reading with the hour, minute, second and fraction that are shown gives the time
that is shown. -/
theorem time_of_shown (time : TimeOfDay) (reading : Reading)
    (hour : reading.hour = time.seconds / 3600) (minute : reading.minute = time.seconds / 60 % 60)
    (second : reading.second = time.shownSecond) (fraction : reading.fraction = time.shownNanos) :
    reading.time? = some time.shown := by
  obtain ⟨day, within⟩ := time.valid
  obtain ⟨early, minutes, _⟩ := time.shown_bounds
  rw [Reading.time?, hour, minute, second, fraction, if_pos ⟨early, by omega, minutes⟩]
  have made := time.shown.of_parts
  rw [if_pos time.shown_isOnClock] at made
  by_cases leap : nanosPerSecond ≤ time.nanos
  · have stretched : time.shownSecond = time.seconds % 60 + 1 := by
      rw [shownSecond, if_pos leap]
    by_cases last : time.seconds % 60 = 59
    · -- Second 60 is the last second of the minute, stretched.
      rw [shown_of_isOnClock (.inr last)] at made ⊢
      have whole : time.seconds / 3600 * 3600 + time.seconds / 60 % 60 * 60 + (60 - 1) =
          time.seconds := by omega
      have nanos : 1 * nanosPerSecond + time.shownNanos = time.nanos := by
        rw [shownNanos, if_pos leap]
        omega
      have shown : time.shownSecond = 60 := by omega
      rw [shown, if_pos rfl]
      exact (congrArg₂ of? whole nanos).trans made
    · -- Any other stretched second is shown, and so read, as the next one.
      have off : ¬time.IsOnClock := by
        simp only [IsOnClock, not_or]
        omega
      rw [shown, dif_pos off] at made ⊢
      have ordinary : ¬time.shownSecond = 60 := by omega
      have whole : time.seconds / 3600 * 3600 + time.seconds / 60 % 60 * 60 +
          (time.shownSecond - 0) = time.seconds + 1 := by omega
      have nanos : 0 * nanosPerSecond + time.shownNanos = time.nanos - nanosPerSecond := by
        rw [shownNanos, if_pos leap]
        omega
      rw [if_neg ordinary]
      exact (congrArg₂ of? whole nanos).trans made
  · have shown : time.shownSecond = time.seconds % 60 := by
      rw [shownSecond, if_neg leap]
      rfl
    rw [shown_of_isOnClock (.inl (by omega))] at made ⊢
    have ordinary : ¬time.seconds % 60 = 60 := by omega
    have whole : time.seconds / 3600 * 3600 + time.seconds / 60 % 60 * 60 +
        (time.seconds % 60 - 0) = time.seconds := by omega
    have nanos : 0 * nanosPerSecond + time.shownNanos = time.nanos := by
      rw [shownNanos, if_neg leap]
      omega
    rw [shown, if_neg ordinary]
    exact (congrArg₂ of? whole nanos).trans made

end TimeOfDay

def Timestamp.shown (timestamp : Timestamp) : Timestamp :=
  { timestamp with time := timestamp.time.shown }

theorem Timestamp.shown_eq_iff (timestamp : Timestamp) :
    timestamp.shown = timestamp ↔ timestamp.time.IsOnClock := by
  rw [← timestamp.time.shown_eq_iff]
  exact ⟨congrArg Timestamp.time, congrArg (Timestamp.mk timestamp.date)⟩

def clocked (parts : Pattern) : Pattern :=
  .blank :: .field .hour :: .literal ':' :: .field .minute :: .literal ':' :: .field .second ::
    parts

theorem read_clocked (reading : Reading) (time : TimeOfDay) (parts : Pattern) :
    Pattern.read? reading (clocked parts) (' ' :: time.text) =
      Pattern.read?
        { reading with
          hour := time.seconds / 3600
          minute := time.seconds / 60 % 60
          second := time.shownSecond }
        parts (fractionText time.shownNanos) := by
  obtain ⟨early, minutes, _⟩ := time.shown_bounds
  rw [time.text_eq, clocked, Pattern.read_cons (Part.read_blank ..),
    Pattern.read_cons (Part.read_field _ _ .hour (by omega)), Pattern.read_literal,
    Pattern.read_cons (Part.read_field _ _ .minute (by omega)), Pattern.read_literal,
    Pattern.read_cons (Part.read_field _ _ .second (by omega))]
  rfl

/-! ## Fractions -/

theorem readFraction_padded (width n : Nat) (positive : 0 < width) (within : width ≤ 9)
    (small : n < 10 ^ width) :
    readFraction? (Digits.padded width n) = some (n * 10 ^ (9 - width), []) := by
  have size := Digits.length_padded width n positive small
  have taken := Digits.takeUpTo_append 9 (Digits.padded width n) [] (Digits.isDigit_padded width n)
    (by omega) (.inr (fun _ none => by cases none))
  rw [List.append_nil] at taken
  have value := Digits.value_padded width n
  rw [readFraction?, taken]
  obtain ⟨c, rest, digits, _⟩ := Digits.padded_cons width n
  rw [digits] at size value ⊢
  dsimp only
  rw [size, value]
  rfl

theorem fractionText_eq (nanos : Nat) (positive : nanos ≠ 0) (small : nanos < nanosPerSecond) :
    ∃ width n, fractionText nanos = '.' :: Digits.padded width n ∧ 0 < width ∧ width ≤ 9 ∧
      n < 10 ^ width ∧ n * 10 ^ (9 - width) = nanos := by
  rw [nanosPerSecond] at small
  rw [fractionText, if_neg positive]
  split
  · exact ⟨3, nanos / 1000000, rfl, by decide, by decide, by omega, by omega⟩
  · split
    · exact ⟨6, nanos / 1000, rfl, by decide, by decide, by omega, by omega⟩
    · exact ⟨9, nanos, rfl, by decide, by decide, by omega, by omega⟩

theorem Part.read_fraction (reading : Reading) (nanos : Nat) (positive : nanos ≠ 0)
    (small : nanos < nanosPerSecond) :
    Part.read? reading (fractionText nanos) .fraction =
      some ({ reading with fraction := nanos }, []) := by
  obtain ⟨width, n, written, some, within, room, scaled⟩ := fractionText_eq nanos positive small
  rw [written, Part.read?, readFraction_padded width n some within room, scaled]
  rfl

end TableLoad.Calendar
