import TableLoad.Calendar.Date

/-!
# Times, timestamps and durations

A time of day counts whole seconds from midnight and nanoseconds, which run from one
billion on in a leap second.  On a clock only the last second of a minute is stretched
by one.  A time may stretch any second and is then written like every other, but what
makes times from their parts refuses it.
-/

set_option autoImplicit false

namespace TableLoad.Calendar

def nanosPerSecond : Nat := 1000000000

def IsTime (seconds nanos : Nat) : Prop :=
  seconds < 86400 ∧ nanos < 2 * nanosPerSecond

instance (seconds nanos : Nat) : Decidable (IsTime seconds nanos) :=
  inferInstanceAs (Decidable (_ ∧ _))

structure TimeOfDay where
  seconds : Nat
  nanos : Nat
  valid : IsTime seconds nanos
deriving DecidableEq

namespace TimeOfDay

/-- If a second is stretched, it is the last of its minute. -/
def IsOnClock (time : TimeOfDay) : Prop :=
  time.nanos < nanosPerSecond ∨ time.seconds % 60 = 59

instance (time : TimeOfDay) : Decidable time.IsOnClock :=
  inferInstanceAs (Decidable (_ ∨ _))

def of? (seconds nanos : Nat) : Option TimeOfDay :=
  if valid : IsTime seconds nanos then
    let time : TimeOfDay := ⟨seconds, nanos, valid⟩
    if time.IsOnClock then some time else none
  else none

end TimeOfDay

structure Timestamp where
  date : Date
  time : TimeOfDay
deriving DecidableEq

def epochDay : Int := 719163

namespace Timestamp

def epochSeconds (timestamp : Timestamp) : Int :=
  (timestamp.date.number - epochDay) * 86400 + timestamp.time.seconds

def ofEpoch? (seconds : Int) (nanos : Nat) : Option Timestamp := do
  let date ← Date.ofNumber? (seconds / 86400 + epochDay)
  let time ← TimeOfDay.of? (seconds % 86400).toNat nanos
  return ⟨date, time⟩

/-- The timestamp some units after the start of 1970, `perSecond` of which make a
second. -/
def ofEpochUnits? (perSecond : Nat) (units : Int) : Option Timestamp :=
  ofEpoch? (units / perSecond)
    ((units % perSecond).toNat * (nanosPerSecond / perSecond))

end Timestamp

/-- The largest distance from zero that a duration has, in nanoseconds. -/
def longestDuration : Int := 9223372036854775807 * 1000000

/-- A signed length of time in nanoseconds. -/
structure Duration where
  nanos : Int
  inRange : -longestDuration ≤ nanos ∧ nanos ≤ longestDuration
deriving DecidableEq

namespace Duration

def ofNanos? (nanos : Int) : Option Duration :=
  if inRange : -longestDuration ≤ nanos ∧ nanos ≤ longestDuration then
    some ⟨nanos, inRange⟩
  else none

def wholeSeconds (duration : Duration) : Int :=
  duration.nanos.tdiv nanosPerSecond

/-- Nanoseconds beyond the whole seconds, with the sign of the duration. -/
def subsecond (duration : Duration) : Int :=
  duration.nanos.tmod nanosPerSecond

/-- Seconds, which must be a duration by themselves, and then nanoseconds. -/
def ofParts? (seconds nanos : Int) : Option Duration := do
  let whole ← ofNanos? (seconds * nanosPerSecond)
  ofNanos? (whole.nanos + nanos)

end Duration

end TableLoad.Calendar
