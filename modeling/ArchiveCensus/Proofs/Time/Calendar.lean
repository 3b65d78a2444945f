import Mathlib.Order.Monotone.Basic
import ArchiveCensus.Time.Calendar

/-!
# Proofs/Time/Calendar — every date has its own day

The days before a year, and those of a year before a month, only grow; a date falls between one such
number and the next.  So the number of its day tells the year, then the month and then the day.

* `Exists.dayNumber_lt` — the days of the calendar are numbered up to the end of the year 9999.
* `Exists.eq_of_dayNumber_eq` — dates that exist are told apart by the numbers of their days.
-/

namespace ArchiveCensus.Date

/-- What lies between one step of a growing sequence and the next tells which step it is. -/
theorem eq_of_between {f : Nat → Nat} (hf : Monotone f) {m n k : Nat} (hm : f m ≤ k)
    (hm' : k < f (m + 1)) (hn : f n ≤ k) (hn' : k < f (n + 1)) : m = n := by
  obtain hlt | heq | hgt := Nat.lt_trichotomy m n
  · have hnext : f (m + 1) ≤ f n := hf hlt
    omega
  · exact heq
  · have hnext : f (n + 1) ≤ f m := hf hgt
    omega

/-! ## Years -/

/-- The length of a year. -/
def yearLength (year : Nat) : Nat := if isLeap year then 366 else 365

theorem isLeap_iff (year : Nat) :
    isLeap year = true ↔ 4 ∣ year ∧ (¬ 100 ∣ year ∨ 400 ∣ year) := by
  simp [isLeap, Nat.dvd_iff_mod_eq_zero]

theorem daysBeforeYear_succ {year : Nat} (h : 1 ≤ year) :
    daysBeforeYear (year + 1) = daysBeforeYear year + yearLength year := by
  obtain ⟨y, rfl⟩ := Nat.exists_eq_add_of_le' h
  have hcenturies : y / 100 ≤ y / 4 := Nat.div_le_div_left (by decide) (by decide)
  have hfour : 100 ∣ y + 1 → 4 ∣ y + 1 := Nat.dvd_trans (by decide)
  have hcentury : 400 ∣ y + 1 → 100 ∣ y + 1 := Nat.dvd_trans (by decide)
  simp only [daysBeforeYear, Nat.add_sub_cancel, Nat.succ_div, yearLength, isLeap_iff]
  by_cases h4 : 4 ∣ y + 1 <;> by_cases h100 : 100 ∣ y + 1 <;> by_cases h400 : 400 ∣ y + 1 <;>
    simp only [h4, h100, h400, true_and, false_and, not_true, not_false_iff, if_true, if_false,
      or_true, or_false] at hfour hcentury ⊢ <;> omega

theorem monotone_daysBeforeYear : Monotone daysBeforeYear := by
  refine monotone_nat_of_le_succ fun year => ?_
  obtain rfl | h := Nat.eq_zero_or_pos year
  · exact Nat.le_refl 0
  · rw [daysBeforeYear_succ h]
    exact Nat.le_add_right _ _

/-! ## Months -/

/-- A start of a list that is one longer adds up to one more item. -/
theorem foldl_take_succ (lengths : List Nat) (k total : Nat) :
    (lengths.take (k + 1)).foldl (· + ·) total =
      (lengths.take k).foldl (· + ·) total + lengths.getD k 0 := by
  induction lengths generalizing k total with
  | nil => simp
  | cons length rest ih =>
    cases k with
    | zero => simp
    | succ k => simpa using ih k (total + length)

theorem daysBeforeMonth_succ (year : Nat) {month : Nat} (h : 1 ≤ month) :
    daysBeforeMonth year (month + 1) = daysBeforeMonth year month + monthLength year month := by
  obtain ⟨k, rfl⟩ := Nat.exists_eq_add_of_le' h
  simpa [daysBeforeMonth, monthLength] using foldl_take_succ (monthLengths (isLeap year)) k 0

theorem monotone_daysBeforeMonth (year : Nat) : Monotone (daysBeforeMonth year) := by
  refine monotone_nat_of_le_succ fun month => ?_
  obtain rfl | h := Nat.eq_zero_or_pos month
  · exact Nat.le_refl 0
  · rw [daysBeforeMonth_succ year h]
    exact Nat.le_add_right _ _

/-- All months make up the year. -/
theorem daysBeforeMonth_last (year : Nat) : daysBeforeMonth year 13 = yearLength year := by
  rw [daysBeforeMonth, yearLength]
  cases isLeap year <;> rfl

/-! ## Dates -/

variable {d d' : Date}

/-- The number of a day within its year. -/
def dayOfYear (d : Date) : Nat := daysBeforeMonth d.year d.month + (d.day - 1)

theorem dayNumber_eq (d : Date) : d.dayNumber = daysBeforeYear d.year + d.dayOfYear :=
  Nat.add_assoc ..

/-- A month that has days is one of twelve. -/
theorem month_of_pos {year month : Nat} (h : 0 < monthLength year month) :
    1 ≤ month ∧ month ≤ 12 := by
  have hlength : (monthLengths (isLeap year)).length = 12 := rfl
  refine ⟨Nat.pos_of_ne_zero ?_, Nat.le_of_not_lt fun hlate => ?_⟩
  · rintro rfl
    cases h
  · rw [monthLength, if_neg (by omega), List.getD_eq_getElem?_getD,
      List.getElem?_eq_none (by omega)] at h
    cases h

theorem Exists.month (h : d.Exists) : 1 ≤ d.month ∧ d.month ≤ 12 := by
  obtain ⟨-, -, hday, hlength⟩ := h
  exact month_of_pos (Nat.lt_of_lt_of_le hday hlength)

/-- A date is before the next month, -/
theorem Exists.dayOfYear_lt (h : d.Exists) :
    d.dayOfYear < daysBeforeMonth d.year (d.month + 1) := by
  rw [dayOfYear, daysBeforeMonth_succ d.year h.month.1]
  obtain ⟨-, -, hday, hlength⟩ := h
  omega

/-- and before the next year. -/
theorem Exists.dayNumber_lt_succ (h : d.Exists) : d.dayNumber < daysBeforeYear (d.year + 1) := by
  have hmonth := monotone_daysBeforeMonth d.year (Nat.succ_le_succ h.month.2)
  rw [daysBeforeMonth_last] at hmonth
  rw [dayNumber_eq, daysBeforeYear_succ h.1]
  exact Nat.add_lt_add_left (Nat.lt_of_lt_of_le h.dayOfYear_lt hmonth) _

/-- **The days of the calendar are numbered up to the end of the year 9999.** -/
theorem Exists.dayNumber_lt (h : d.Exists) : d.dayNumber < 3652059 := by
  rw [← daysBeforeYear_last]
  exact Nat.lt_of_lt_of_le h.dayNumber_lt_succ
    (monotone_daysBeforeYear (Nat.succ_le_succ h.2.1))

/-- A date is not before its year, -/
theorem daysBeforeYear_le (d : Date) : daysBeforeYear d.year ≤ d.dayNumber := by
  rw [dayNumber_eq]
  exact Nat.le_add_right _ _

/-- nor before its month. -/
theorem daysBeforeMonth_le (d : Date) : daysBeforeMonth d.year d.month ≤ d.dayOfYear :=
  Nat.le_add_right _ _

theorem Exists.year_eq (h : d.Exists) (h' : d'.Exists) (hnumber : d.dayNumber = d'.dayNumber) :
    d.year = d'.year := by
  have hstart := daysBeforeYear_le d'
  have hnext := h'.dayNumber_lt_succ
  rw [← hnumber] at hstart hnext
  exact eq_of_between monotone_daysBeforeYear (daysBeforeYear_le d) h.dayNumber_lt_succ hstart hnext

theorem Exists.month_eq (h : d.Exists) (h' : d'.Exists) (hyear : d.year = d'.year)
    (hday : d.dayOfYear = d'.dayOfYear) : d.month = d'.month := by
  have hstart := daysBeforeMonth_le d'
  have hnext := h'.dayOfYear_lt
  rw [← hday, ← hyear] at hstart hnext
  exact eq_of_between (monotone_daysBeforeMonth d.year) (daysBeforeMonth_le d) h.dayOfYear_lt
    hstart hnext

/-- **Dates that exist are told apart by the numbers of their days**: by the year, then by the
month, then by the day. -/
theorem Exists.eq_of_dayNumber_eq (h : d.Exists) (h' : d'.Exists)
    (hnumber : d.dayNumber = d'.dayNumber) : d = d' := by
  have hyear := h.year_eq h' hnumber
  have hday : d.dayOfYear = d'.dayOfYear := by
    rw [dayNumber_eq, dayNumber_eq, hyear] at hnumber
    exact Nat.add_left_cancel hnumber
  have hmonth := h.month_eq h' hyear hday
  have hrest : d.day - 1 = d'.day - 1 := by
    rw [dayOfYear, dayOfYear, hyear, hmonth] at hday
    exact Nat.add_left_cancel hday
  obtain ⟨-, -, hpos, -⟩ := h
  obtain ⟨-, -, hpos', -⟩ := h'
  obtain ⟨year, month, day⟩ := d
  obtain ⟨year', month', day'⟩ := d'
  simp only at hyear hmonth hrest hpos hpos'
  rw [hyear, hmonth, show day = day' by omega]

/-! ## The ends of the calendar -/

/-- The first day of the calendar. -/
def first : Date := ⟨1, 1, 1⟩

/-- The last day of the calendar. -/
def last : Date := ⟨9999, 12, 31⟩

theorem exists_first : first.Exists := by decide

theorem exists_last : last.Exists := by decide

theorem Exists.dayNumber_eq_zero_iff (h : d.Exists) : d.dayNumber = 0 ↔ d = first := by
  refine ⟨fun hzero => h.eq_of_dayNumber_eq exists_first hzero, ?_⟩
  rintro rfl
  rfl

theorem Exists.dayNumber_eq_last_iff (h : d.Exists) : d.dayNumber = 3652058 ↔ d = last := by
  refine ⟨fun hlast => h.eq_of_dayNumber_eq exists_last hlast, ?_⟩
  rintro rfl
  rfl

end ArchiveCensus.Date
