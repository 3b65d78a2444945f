import ArchiveCensus.Time.Instant
import ArchiveCensus.Proofs.Text.Decimal
import ArchiveCensus.Proofs.Time.DayNumber

/-!
# Proofs/Time/Clock — what a clock shows

A clock shows a date of the calendar, a time of day and the digits of a fraction of a second.  An
instant is what it shows in UTC: the parts of the instant are those of the clock, down to the
microsecond.

* `Clock.instant` — the instant at which a clock in UTC shows this.
* `date_instant`, `secondOfDay_instant`, `subsecond_instant` — its parts are those of the clock.
* `Instant.instant_clock` — what a clock in UTC shows at an instant, to the second.
-/

namespace ArchiveCensus

open Text

/-! ## Fractions -/

/-- The microseconds of a fraction of a second: its first six digits, with zeros after them where
there are fewer. -/
def microsOfDigits (digits : List (Fin 10)) : Nat :=
  valueAfter 0 ((digits ++ List.replicate 6 0).take 6)

theorem microsOfDigits_nil : microsOfDigits [] = 0 := rfl

theorem microsOfDigits_lt (digits : List (Fin 10)) : microsOfDigits digits < microsPerSecond := by
  have hlt := valueAfter_lt 0 ((digits ++ List.replicate 6 0).take 6)
  have hlength : ((digits ++ List.replicate 6 0).take 6).length = 6 := by
    rw [List.length_take, List.length_append, List.length_replicate]
    omega
  rwa [hlength] at hlt

/-- No more than six digits count. -/
theorem microsOfDigits_take (digits : List (Fin 10)) :
    microsOfDigits (digits.take 6) = microsOfDigits digits := by
  have hsame : (digits.take 6 ++ List.replicate 6 0).take 6 =
      (digits ++ List.replicate 6 0).take 6 := by
    rw [List.take_append, List.take_append, List.take_take, List.length_take, List.take_replicate,
      List.take_replicate]
    congr 2
    omega
  rw [microsOfDigits, hsame, microsOfDigits]

/-- The digits of a short fraction are followed by zeros. -/
theorem microsOfDigits_eq {digits : List (Fin 10)} (h : digits.length ≤ 6) :
    microsOfDigits digits = valueAfter 0 digits * Nat.pow 10 (6 - digits.length) := by
  have hpadded : (digits ++ List.replicate 6 0).take 6 =
      digits ++ List.replicate (6 - digits.length) 0 := by
    rw [List.take_append, List.take_of_length_le h, List.take_replicate, Nat.min_eq_left (by omega)]
  rw [microsOfDigits, hpadded, valueAfter_append, valueAfter_replicate]

/-! ## Clocks -/

/-- What a clock shows. -/
structure Clock where
  date : Date
  hour : Fin 24
  minute : Fin 60
  second : Fin 60
  /-- The digits of a fraction of a second; none where it shows whole seconds only. -/
  fraction : List (Fin 10)
  exists_date : date.Exists

namespace Clock

variable (c : Clock)

/-- The seconds since midnight. -/
def secondOfDay : Nat := (c.hour * 60 + c.minute) * 60 + c.second

theorem secondOfDay_lt : c.secondOfDay < 86400 := by
  have hhour := c.hour.isLt
  have hminute := c.minute.isLt
  have hsecond := c.second.isLt
  unfold secondOfDay
  omega

/-- The microseconds since midnight. -/
def timeOfDay : Nat := c.secondOfDay * microsPerSecond + microsOfDigits c.fraction

theorem timeOfDay_lt : c.timeOfDay < microsPerDay := by
  have hseconds := c.secondOfDay_lt
  have hfraction := microsOfDigits_lt c.fraction
  simp only [timeOfDay, microsPerDay, microsPerSecond] at *
  omega

/-- The microseconds since the start of the year 1. -/
def micros : Nat := c.date.dayNumber * microsPerDay + c.timeOfDay

/-- The instant at which a clock in UTC shows this. -/
def instant : Instant where
  micros := c.micros
  inRange := by
    have hday := c.exists_date.dayNumber_lt
    have htime := c.timeOfDay_lt
    simp only [micros, microsPerDay, microsPerSecond] at *
    omega

/-- **The instant is on the date of the clock**, -/
theorem date_instant : c.instant.date = c.date := by
  have hday : c.instant.micros / microsPerDay = c.date.dayNumber := by
    change c.micros / microsPerDay = _
    rw [micros, Nat.mul_comm, Nat.mul_add_div (by decide), Nat.div_eq_of_lt c.timeOfDay_lt,
      Nat.add_zero]
  rw [Instant.date, hday, c.exists_date.ofDayNumber_dayNumber]

/-- at its second of the day, -/
theorem secondOfDay_instant : c.instant.secondOfDay = c.secondOfDay := by
  have htime : c.instant.micros % microsPerDay = c.timeOfDay := by
    change c.micros % microsPerDay = _
    rw [micros, Nat.mul_comm, Nat.mul_add_mod, Nat.mod_eq_of_lt c.timeOfDay_lt]
  rw [Instant.secondOfDay, htime, timeOfDay, Nat.mul_comm, Nat.mul_add_div (by decide),
    Nat.div_eq_of_lt (microsOfDigits_lt _), Nat.add_zero]

/-- and at the microsecond of its fraction. -/
theorem subsecond_instant : c.instant.subsecond = microsOfDigits c.fraction := by
  have hfraction := microsOfDigits_lt c.fraction
  change c.micros % microsPerSecond = _
  simp only [micros, timeOfDay, microsPerDay, microsPerSecond] at *
  omega

end Clock

/-! ## The clock at an instant -/

namespace Instant

theorem day_lt (t : Instant) : t.micros / microsPerDay < 3652059 :=
  Nat.div_lt_of_lt_mul (Nat.mul_comm .. ▸ t.inRange)

theorem secondOfDay_lt (t : Instant) : t.secondOfDay < 86400 :=
  Nat.div_lt_of_lt_mul (Nat.mul_comm .. ▸ Nat.mod_lt _ (by decide))

theorem exists_date (t : Instant) : t.date.Exists := Date.exists_ofDayNumber t.day_lt

/-- What a clock in UTC shows at an instant, to the second. -/
def clock (t : Instant) : Clock where
  date := t.date
  hour := ⟨t.secondOfDay / 3600, Nat.div_lt_of_lt_mul t.secondOfDay_lt⟩
  minute := ⟨t.secondOfDay / 60 % 60, Nat.mod_lt _ (by decide)⟩
  second := ⟨t.secondOfDay % 60, Nat.mod_lt _ (by decide)⟩
  fraction := []
  exists_date := t.exists_date

theorem secondOfDay_clock (t : Instant) : t.clock.secondOfDay = t.secondOfDay := by
  dsimp only [Clock.secondOfDay, clock]
  omega

/-- **A clock in UTC shows an instant to the second.** -/
theorem instant_clock (t : Instant) : t.clock.instant = t.toSecond := by
  have hday : t.clock.date.dayNumber = t.micros / microsPerDay := Date.dayNumber_ofDayNumber _
  have htime : t.clock.timeOfDay = t.secondOfDay * microsPerSecond := by
    have hfraction : microsOfDigits t.clock.fraction = 0 := microsOfDigits_nil
    rw [Clock.timeOfDay, secondOfDay_clock, hfraction, Nat.add_zero]
  have hmicros : t.clock.micros = t.micros - t.subsecond := by
    simp only [Clock.micros, hday, htime, secondOfDay, subsecond, microsPerDay, microsPerSecond]
    omega
  simp only [Clock.instant, toSecond, hmicros]

end Instant

end ArchiveCensus
