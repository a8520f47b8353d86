import Escalation.Time.Clock

/-!
# The local minute

The time of day at a place counts the whole minutes since 1970, adds the minutes of the offset, and
takes the days off (`Offset.timeOfDay_exact`). Before 1970 the count is negative and nothing else
changes: all divisions round down, so a minute is cut off at its start and the clock goes round at
midnight in both directions.

Minutes make an offset if they are less than a day. The others give universal time: those that come to
a day or more in seconds, and those whose seconds 32 bits cannot hold, for what these are brought to
is still more than a day (`saturate32_within`).

A leap second is left out. It is the second before it with more nanoseconds than a second has, and
these would run into the next minute.
-/

namespace Escalation

open Time

/-! ## Instants -/

namespace Time.Timestamp

/-- The nanoseconds from 1 January 1970 to an instant. -/
def sinceEpoch (t : Timestamp) : Int :=
  t.second * nanosPerSecond + t.nano

/-- The whole minutes from 1 January 1970 to an instant, rounded down. -/
def wholeMinutes (t : Timestamp) : Int :=
  t.sinceEpoch / (60 * nanosPerSecond)

/-- Outside leap seconds, the nanoseconds make no difference to the minutes. -/
theorem wholeMinutes_eq {t : Timestamp} (regular : t.nano < nanosPerSecond) :
    t.wholeMinutes = t.second / 60 := by
  unfold wholeMinutes sinceEpoch
  unfold nanosPerSecond at *
  omega

end Time.Timestamp

/-! ## Offsets -/

theorem saturate32_of_fits {n : Int} (low : -2147483648 ≤ n) (high : n ≤ 2147483647) :
    saturate32 n = n := by
  unfold saturate32
  omega

/-- What 32 bits cannot hold is brought to what is more than a day, as it was. -/
theorem saturate32_within (n : Int) :
    (-86400 < saturate32 n ∧ saturate32 n < 86400) ↔ (-86400 < n ∧ n < 86400) := by
  unfold saturate32
  omega

namespace Offset

variable {minutes : Int}

theorem ofMinutes_seconds (within : -1440 < minutes ∧ minutes < 1440) :
    (ofMinutes minutes).seconds = minutes * 60 := by
  have fits : saturate32 (minutes * 60) = minutes * 60 :=
    saturate32_of_fits (by omega) (by omega)
  have seconds : -86400 < minutes * 60 ∧ minutes * 60 < 86400 := by omega
  rw [ofMinutes, fits, ofSeconds?, dif_pos seconds, Option.getD_some]

theorem ofMinutes_of_beyond (beyond : ¬(-1440 < minutes ∧ minutes < 1440)) :
    ofMinutes minutes = universal := by
  have seconds : ¬(-86400 < saturate32 (minutes * 60) ∧ saturate32 (minutes * 60) < 86400) := by
    rw [saturate32_within]
    omega
  rw [ofMinutes, ofSeconds?, dif_neg seconds, Option.getD_none]

end Offset

/-! ## The minute of the day -/

theorem TimeOfDay.minutes_ofSeconds (seconds : Nat) :
    (ofSeconds seconds).minutes = seconds / 60 % 1440 := by
  simp only [ofSeconds, wrap]
  omega

namespace Offset

variable {now : Timestamp}

/-- **The clock of a place** shows the minutes of its own seconds since 1970, without the days. -/
theorem minutes_timeOfDay (offset : Offset) (now : Timestamp) :
    ((offset.timeOfDay now).minutes : Int) = (now.second + offset.seconds) / 60 % 1440 := by
  have floor : Int.fmod (now.second + offset.seconds) 86400 =
      (now.second + offset.seconds) % 86400 := Int.fmod_eq_emod_of_nonneg _ (by decide)
  rw [timeOfDay, TimeOfDay.minutes_ofSeconds, floor]
  omega

theorem minutes_timeOfDay_universal (regular : now.nano < nanosPerSecond) :
    ((universal.timeOfDay now).minutes : Int) = now.wholeMinutes % 1440 := by
  rw [minutes_timeOfDay, Timestamp.wholeMinutes_eq regular]
  have none : universal.seconds = 0 := rfl
  rw [none, Int.add_zero]

/-- **The local minute of the day is exact.** Less than a day of minutes, either way, is added to the
whole minutes since 1970, before 1970 as after it; with any other number of minutes, however great,
it is the minute of universal time. -/
theorem timeOfDay_exact (regular : now.nano < nanosPerSecond) (minutes : Int) :
    (-1440 < minutes ∧ minutes < 1440 →
      (((ofMinutes minutes).timeOfDay now).minutes : Int) = (now.wholeMinutes + minutes) % 1440) ∧
    (¬(-1440 < minutes ∧ minutes < 1440) →
      (ofMinutes minutes).timeOfDay now = universal.timeOfDay now ∧
        (((ofMinutes minutes).timeOfDay now).minutes : Int) = now.wholeMinutes % 1440) := by
  constructor
  · intro within
    -- Whole minutes of offset can be added before or after the seconds are cut off.
    rw [minutes_timeOfDay, ofMinutes_seconds within, Timestamp.wholeMinutes_eq regular]
    omega
  · intro beyond
    rw [ofMinutes_of_beyond beyond]
    exact ⟨rfl, minutes_timeOfDay_universal regular⟩

/-- Half a minute before 1970 it is 23:59; an hour to the west it is 22:59, eleven hours to the east
10:59, and a number of minutes whose seconds 32 bits cannot hold does not count. -/
theorem lastMinute_timeOfDay :
    let now : Timestamp := ⟨-30, 500000000⟩
    now.nano < nanosPerSecond ∧
      ((ofMinutes (-60)).timeOfDay now).minutes = 22 * 60 + 59 ∧
      ((ofMinutes 660).timeOfDay now).minutes = 10 * 60 + 59 ∧
      ((ofMinutes 35791395).timeOfDay now).minutes = 23 * 60 + 59 := by
  intro now
  have regular : now.nano < nanosPerSecond := by decide
  have count : now.wholeMinutes = -1 := by decide
  have west := (timeOfDay_exact regular (-60)).1 (by decide)
  have east := (timeOfDay_exact regular 660).1 (by decide)
  have beyond := ((timeOfDay_exact regular 35791395).2 (by decide)).2
  rw [count] at west east beyond
  exact ⟨regular, by omega, by omega, by omega⟩

end Offset

end Escalation
