/-!
# Time/Calendar — days and dates

Dates are those of the Gregorian calendar carried back to the year 1.  Days are counted from the
first day of that year, which is day 0:

* `Date.dayNumber` counts the days before a date;
* `Date.ofDayNumber` finds the date of a day, by whole cycles of 400, 100, 4 and 1 years.
-/

namespace ArchiveCensus

/-- Whether a year has a 29th of February. -/
def isLeap (year : Nat) : Bool :=
  year % 4 == 0 && (year % 100 != 0 || year % 400 == 0)

/-- The lengths of the months of a year. -/
def monthLengths (leap : Bool) : List Nat :=
  [31, if leap then 29 else 28, 31, 30, 31, 30, 31, 31, 30, 31, 30, 31]

/-- A day of the calendar. -/
structure Date where
  year : Nat
  month : Nat
  day : Nat
  deriving DecidableEq, Repr

namespace Date

/-- The length of a month; zero for a month that does not exist. -/
def monthLength (year month : Nat) : Nat :=
  if month = 0 then 0 else (monthLengths (isLeap year)).getD (month - 1) 0

/-- Whether a date exists: its year is between 1 and 9999, and the month has the day. -/
def Exists (d : Date) : Prop :=
  1 ≤ d.year ∧ d.year ≤ 9999 ∧ 1 ≤ d.day ∧ d.day ≤ monthLength d.year d.month

instance (d : Date) : Decidable d.Exists :=
  inferInstanceAs (Decidable (_ ∧ _ ∧ _ ∧ _))

/-- The number of days before a year. -/
def daysBeforeYear (year : Nat) : Nat :=
  let y := year - 1
  y * 365 + y / 4 - y / 100 + y / 400

/-- The number of days of a year before a month. -/
def daysBeforeMonth (year month : Nat) : Nat :=
  ((monthLengths (isLeap year)).take (month - 1)).foldl (· + ·) 0

/-- The number of days before a date. -/
def dayNumber (d : Date) : Nat :=
  daysBeforeYear d.year + daysBeforeMonth d.year d.month + (d.day - 1)

/-- The month and the day of a day of the year, counted from 0, where `month` is the first month
left. -/
def monthAndDay (month n : Nat) : List Nat → Nat × Nat
  | [] => (month, n + 1)
  | length :: rest =>
      if n < length then (month, n + 1) else monthAndDay (month + 1) (n - length) rest

/-- The year of a day and the number of the day in it. -/
def yearAndDay (n : Nat) : Nat × Nat :=
  let n400 := n / 146097
  let r400 := n % 146097
  let n100 := r400 / 36524
  let r100 := r400 % 36524
  let n4 := r100 / 1461
  let r4 := r100 % 1461
  let n1 := r4 / 365
  let year := n400 * 400 + n100 * 100 + n4 * 4 + n1
  if n100 = 4 ∨ n1 = 4 then (year, 365) else (year + 1, r4 % 365)

/-- The date of a day. -/
def ofDayNumber (n : Nat) : Date :=
  let (year, k) := yearAndDay n
  let (month, day) := monthAndDay 1 k (monthLengths (isLeap year))
  ⟨year, month, day⟩

/-- The number of days up to the end of the year 9999. -/
theorem daysBeforeYear_last : daysBeforeYear 10000 = 3652059 := rfl

end Date

end ArchiveCensus
