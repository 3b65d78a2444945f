import Mathlib.Algebra.Order.BigOperators.Group.List
import Mathlib.Algebra.Ring.Nat
import ArchiveCensus.Proofs.Time.Calendar

/-!
# Proofs/Time/DayNumber — every day has its date

The calendar repeats itself in cycles of 400, 100, 4 and 1 years, and a day is found in them one
after another; a cycle that comes once too often stands for the last day of a leap year.  In the
year the day is found month by month.

* `exists_ofDayNumber`, `dayNumber_ofDayNumber` — the date of a day exists and has its number.
* `ofDayNumber_dayNumber` — so it is the only one that has.
-/

namespace ArchiveCensus.Date

/-! ## Years -/

/-- Whole cycles of years, and the days before the year after them. -/
theorem daysBeforeYear_cycles (n400 : Nat) {n100 n4 n1 : Nat} (h100 : n100 ≤ 3) (h4 : n4 ≤ 24)
    (h1 : n1 ≤ 3) : daysBeforeYear (n400 * 400 + n100 * 100 + n4 * 4 + n1 + 1) =
      n400 * 146097 + n100 * 36524 + n4 * 1461 + n1 * 365 := by
  unfold daysBeforeYear
  dsimp only
  omega

theorem le_yearLength (year : Nat) : 365 ≤ yearLength year := by
  unfold yearLength
  split <;> omega

/-- The year that ends a cycle of four years is a leap year, unless it ends a century that does not
end a cycle of four centuries. -/
theorem yearLength_cycles (n400 : Nat) {n100 n4 : Nat} (h : n100 = 3 ∧ n4 = 24 ∨ n4 ≤ 23) :
    yearLength (n400 * 400 + n100 * 100 + n4 * 4 + 3 + 1) = 366 := by
  refine if_pos ((isLeap_iff _).2 ⟨?_, ?_⟩) <;> omega

/-- **A day is found in its year.** -/
theorem yearAndDay_spec (n : Nat) :
    1 ≤ (yearAndDay n).1 ∧ daysBeforeYear (yearAndDay n).1 + (yearAndDay n).2 = n ∧
      (yearAndDay n).2 < yearLength (yearAndDay n).1 := by
  unfold yearAndDay
  dsimp only
  have hn : n = n / 146097 * 146097 + n % 146097 := (Nat.div_add_mod' n 146097).symm
  have hr400 : n % 146097 < 146097 := Nat.mod_lt _ (by decide)
  generalize n / 146097 = n400, n % 146097 = r400 at *
  have hn100 : r400 = r400 / 36524 * 36524 + r400 % 36524 := (Nat.div_add_mod' r400 36524).symm
  have hr100 : r400 % 36524 < 36524 := Nat.mod_lt _ (by decide)
  generalize r400 / 36524 = n100, r400 % 36524 = r100 at *
  have hn4 : r100 = r100 / 1461 * 1461 + r100 % 1461 := (Nat.div_add_mod' r100 1461).symm
  have hr4 : r100 % 1461 < 1461 := Nat.mod_lt _ (by decide)
  generalize r100 / 1461 = n4, r100 % 1461 = r4 at *
  have hn1 : r4 = r4 / 365 * 365 + r4 % 365 := (Nat.div_add_mod' r4 365).symm
  have hr1 : r4 % 365 < 365 := Nat.mod_lt _ (by decide)
  generalize r4 / 365 = n1, r4 % 365 = r1 at *
  by_cases h100 : n100 = 4
  · -- the last day of the fourth century
    have hyear : n400 * 400 + n100 * 100 + n4 * 4 + n1 = n400 * 400 + 3 * 100 + 24 * 4 + 3 + 1 := by
      omega
    rw [if_pos (.inl h100), hyear, yearLength_cycles n400 (.inl ⟨rfl, rfl⟩),
      daysBeforeYear_cycles n400 (Nat.le_refl 3) (Nat.le_refl 24) (Nat.le_refl 3)]
    omega
  by_cases h1 : n1 = 4
  · -- the last day of the fourth year
    have hyear : n400 * 400 + n100 * 100 + n4 * 4 + n1 = n400 * 400 + n100 * 100 + n4 * 4 + 3 + 1 :=
      by omega
    rw [if_pos (.inr h1), hyear, yearLength_cycles n400 (.inr (by omega)),
      daysBeforeYear_cycles n400 (by omega) (by omega) (Nat.le_refl 3)]
    omega
  · have hlength := le_yearLength (n400 * 400 + n100 * 100 + n4 * 4 + n1 + 1)
    rw [if_neg (not_or.2 ⟨h100, h1⟩),
      daysBeforeYear_cycles n400 (by omega) (by omega) (by omega)]
    dsimp only
    omega

/-! ## Months -/

/-- A day of some months is found in one of them. -/
theorem monthAndDay_spec : ∀ (lengths : List Nat) (month n : Nat), n < lengths.sum →
    ∃ i < lengths.length, (monthAndDay month n lengths).1 = month + i ∧
      (lengths.take i).sum + ((monthAndDay month n lengths).2 - 1) = n ∧
      1 ≤ (monthAndDay month n lengths).2 ∧
      (monthAndDay month n lengths).2 ≤ lengths.getD i 0
  | [], _, _, h => absurd h (Nat.not_lt_zero _)
  | length :: rest, month, n, h => by
    rw [monthAndDay]
    split
    · next hfirst =>
      refine ⟨0, Nat.succ_pos _, rfl, ?_, Nat.succ_pos n, hfirst⟩
      simp
    · next hlater =>
      have hrest : n - length < rest.sum := by
        rw [List.sum_cons] at h
        omega
      rcases monthAndDay_spec rest (month + 1) (n - length) hrest with
        ⟨i, hi, hmonth, hday, hpos, hle⟩
      refine ⟨i + 1, Nat.succ_lt_succ hi, by omega, ?_, hpos, hle⟩
      rw [List.take_succ_cons, List.sum_cons]
      omega

theorem sum_monthLengths (year : Nat) : (monthLengths (isLeap year)).sum = yearLength year := by
  unfold yearLength
  cases isLeap year <;> rfl

/-- **A day of a year is found in its month.** -/
theorem monthAndDay_year {year n : Nat} (h : n < yearLength year) {month day : Nat}
    (hfound : monthAndDay 1 n (monthLengths (isLeap year)) = (month, day)) :
    daysBeforeMonth year month + (day - 1) = n ∧ 1 ≤ day ∧ day ≤ monthLength year month := by
  rcases monthAndDay_spec _ 1 n ((sum_monthLengths year).symm ▸ h) with
    ⟨i, -, hmonth, hday, hpos, hle⟩
  rw [hfound] at hmonth hday hpos hle
  obtain rfl : month = 1 + i := hmonth
  refine ⟨?_, hpos, ?_⟩
  · rwa [daysBeforeMonth, Nat.add_sub_cancel_left, ← List.sum_eq_foldl]
  · rwa [monthLength, if_neg (by omega), Nat.add_sub_cancel_left]

/-- No month is longer than 31 days. -/
theorem monthLength_le (year month : Nat) : monthLength year month ≤ 31 := by
  have hall : ∀ leap, ∀ length ∈ monthLengths leap, length ≤ 31 := by decide
  rw [monthLength]
  split
  · omega
  · rw [List.getD_eq_getElem?_getD]
    cases hlength : (monthLengths (isLeap year))[month - 1]? with
    | none => exact Nat.zero_le 31
    | some length => exact hall _ length (List.mem_of_getElem? hlength)

theorem Exists.day {d : Date} (h : d.Exists) : 1 ≤ d.day ∧ d.day ≤ 31 :=
  ⟨h.2.2.1, Nat.le_trans h.2.2.2 (monthLength_le d.year d.month)⟩

/-! ## Dates -/

/-- The date of a day has its number, and the month has the day. -/
theorem ofDayNumber_spec (n : Nat) :
    (ofDayNumber n).dayNumber = n ∧ 1 ≤ (ofDayNumber n).year ∧ 1 ≤ (ofDayNumber n).day ∧
      (ofDayNumber n).day ≤ monthLength (ofDayNumber n).year (ofDayNumber n).month := by
  rcases yearAndDay_spec n with ⟨hyear, hdays, hlength⟩
  rcases monthAndDay_year hlength rfl with ⟨hmonth, hpos, hle⟩
  refine ⟨?_, hyear, hpos, hle⟩
  calc (ofDayNumber n).dayNumber
      = daysBeforeYear (yearAndDay n).1 + (yearAndDay n).2 := by
        rw [dayNumber_eq]
        exact congrArg (daysBeforeYear (yearAndDay n).1 + ·) hmonth
    _ = n := hdays

/-- **The date of a day has its number.** -/
@[simp] theorem dayNumber_ofDayNumber (n : Nat) : (ofDayNumber n).dayNumber = n :=
  (ofDayNumber_spec n).1

/-- **The date of a day of the calendar exists.** -/
theorem exists_ofDayNumber {n : Nat} (h : n < 3652059) : (ofDayNumber n).Exists := by
  rcases ofDayNumber_spec n with ⟨hnumber, hyear, hpos, hle⟩
  refine ⟨hyear, Nat.le_of_not_lt fun hlate => ?_, hpos, hle⟩
  have hstart := daysBeforeYear_le (ofDayNumber n)
  have hend : daysBeforeYear 10000 ≤ daysBeforeYear (ofDayNumber n).year :=
    monotone_daysBeforeYear hlate
  rw [daysBeforeYear_last] at hend
  omega

/-- **A date is that of its day.** -/
theorem Exists.ofDayNumber_dayNumber {d : Date} (h : d.Exists) : ofDayNumber d.dayNumber = d :=
  (exists_ofDayNumber h.dayNumber_lt).eq_of_dayNumber_eq h (dayNumber_ofDayNumber _)

end ArchiveCensus.Date
