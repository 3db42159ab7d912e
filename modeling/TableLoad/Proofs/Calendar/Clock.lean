import TableLoad.Calendar.Clock
import TableLoad.Proofs.Calendar.Days

/-!
# Times, timestamps and durations by their parts

What is put together again from the parts of a timestamp or a duration is the same
timestamp or duration; of times, those are made that a clock shows.
-/

set_option autoImplicit false

namespace TableLoad.Calendar

theorem TimeOfDay.of_parts (t : TimeOfDay) :
    TimeOfDay.of? t.seconds t.nanos = if t.IsOnClock then some t else none := by
  simp [TimeOfDay.of?, t.valid]

theorem TimeOfDay.isOnClock_of_made {seconds nanos : Nat} {t : TimeOfDay}
    (made : TimeOfDay.of? seconds nanos = some t) : t.IsOnClock := by
  simp only [TimeOfDay.of?, Option.dite_none_right_eq_some, Option.ite_none_right_eq_some,
    Option.some.injEq] at made
  obtain ⟨valid, onClock, rfl⟩ := made
  exact onClock

theorem Timestamp.ofEpoch_parts (t : Timestamp) :
    Timestamp.ofEpoch? t.epochSeconds t.time.nanos =
      if t.time.IsOnClock then some t else none := by
  have clock := t.time.valid.1
  have day : t.epochSeconds / 86400 + epochDay = t.date.number := by
    unfold epochSeconds
    omega
  have second : (t.epochSeconds % 86400).toNat = t.time.seconds := by
    unfold epochSeconds
    omega
  by_cases onClock : t.time.IsOnClock
  · simp [ofEpoch?, day, second, Date.ofNumber_number, TimeOfDay.of_parts, onClock]
  · simp [ofEpoch?, day, second, Date.ofNumber_number, TimeOfDay.of_parts, onClock]

theorem Timestamp.isOnClock_of_made {seconds : Int} {nanos : Nat} {t : Timestamp}
    (made : Timestamp.ofEpoch? seconds nanos = some t) : t.time.IsOnClock := by
  simp only [ofEpoch?, Option.bind_eq_bind, Option.bind_eq_some_iff] at made
  obtain ⟨date, _, time, clock, same⟩ := made
  cases same
  exact TimeOfDay.isOnClock_of_made clock

/-- Whole seconds and what is left of a second make the duration again; the
whole seconds are no further from zero than the duration. -/
theorem Duration.ofParts_parts (d : Duration) :
    Duration.ofParts? d.wholeSeconds d.subsecond = some d := by
  have parts : nanosPerSecond * d.nanos.tdiv nanosPerSecond + d.nanos.tmod nanosPerSecond =
      d.nanos := Int.mul_tdiv_add_tmod d.nanos nanosPerSecond
  obtain ⟨low, high⟩ := d.inRange
  have whole : -longestDuration ≤ d.wholeSeconds * nanosPerSecond ∧
      d.wholeSeconds * nanosPerSecond ≤ longestDuration := by
    have smaller : (d.wholeSeconds * nanosPerSecond).natAbs ≤ d.nanos.natAbs := by
      rw [wholeSeconds, Int.natAbs_mul, Int.natAbs_tdiv]
      exact Nat.div_mul_le_self _ _
    omega
  have sum : d.wholeSeconds * nanosPerSecond + d.subsecond = d.nanos := by
    rw [Int.mul_comm]
    exact parts
  simp [ofParts?, ofNanos?, whole, sum, d.inRange]

theorem Duration.parts_bounds (d : Duration) :
    (-2 ^ 64 ≤ 2 * d.wholeSeconds ∧ 2 * d.wholeSeconds < 2 ^ 64) ∧
      (-2 ^ 32 ≤ 2 * d.subsecond ∧ 2 * d.subsecond < 2 ^ 32) := by
  obtain ⟨low, high⟩ := d.inRange
  have quotient : d.wholeSeconds.natAbs = d.nanos.natAbs / nanosPerSecond := by
    rw [wholeSeconds, Int.natAbs_tdiv]
    rfl
  have remainder : d.subsecond.natAbs = d.nanos.natAbs % nanosPerSecond := by
    rw [subsecond, Int.natAbs_tmod]
    rfl
  unfold longestDuration at low high
  unfold nanosPerSecond at quotient remainder
  omega

end TableLoad.Calendar
