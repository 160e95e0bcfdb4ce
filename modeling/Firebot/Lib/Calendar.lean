import Mathlib.Algebra.Order.Group.Int
import Mathlib.Order.Monotone.Basic
import Mathlib.Tactic.IntervalCases

/-!
# Months of the Gregorian calendar

Months are numbered from January of the year 0, and days from 1 January 1970; both go on before and after.
`firstDay` is the first day of a month, and `monthOf` the month of a day: they are inverse to each other in the sense
that the days of a month are those from its first day to the day before the next one (`monthOf_eq_iff`).

`addMonths` is what databases do with an interval of months: the day of the month stays, or becomes the last one
where the month is too short.
-/

namespace Calendar

/-- A leap year. -/
def leap (year : Int) : Bool := year % 4 = 0 && (year % 100 ≠ 0 || year % 400 = 0)

/-- The days of a month. -/
def monthDays (month : Int) : Int :=
  if month % 12 = 1 then (if leap (month / 12) then 29 else 28)
  else if month % 12 = 3 ∨ month % 12 = 5 ∨ month % 12 = 8 ∨ month % 12 = 10 then 30
  else 31

/-- The days of a year before a month, in a year with 28 days in February. -/
def daysBefore (month : Int) : Int := [0, 31, 59, 90, 120, 151, 181, 212, 243, 273, 304, 334].getD (month % 12).toNat 0

/-- The first day of a month. -/
def firstDay (month : Int) : Int :=
  let year := month / 12
  365 * year + (year + 3) / 4 - (year + 99) / 100 + (year + 399) / 400 + daysBefore month +
    (if leap year && decide (1 < month % 12) then 1 else 0) - 719528

/-- The month of a day: about as many months as the days make, corrected by one where it is another. -/
def monthOf (day : Int) : Int :=
  let guess := (day + 719528) * 4800 / 146097
  if day < firstDay guess then guess - 1 else if firstDay (guess + 1) ≤ day then guess + 1 else guess

theorem monthDays_bounds (month : Int) : 28 ≤ monthDays month ∧ monthDays month ≤ 31 := by
  unfold monthDays
  split
  · split <;> omega
  · split <;> omega

theorem leap_iff (year : Int) : leap year = true ↔ year % 4 = 0 ∧ (year % 100 ≠ 0 ∨ year % 400 = 0) := by
  simp [leap]

/-- The days from the beginning of the calendar to a year. -/
def yearDays (year : Int) : Int := 365 * year + (year + 3) / 4 - (year + 99) / 100 + (year + 399) / 400

theorem yearDays_succ (year : Int) : yearDays (year + 1) = yearDays year + (if leap year then 366 else 365) := by
  unfold yearDays
  split
  · next is_leap =>
    rw [leap_iff] at is_leap
    omega
  · next common =>
    rw [leap_iff] at common
    omega

theorem month_split (month : Int) : ∃ year k : Int, (0 ≤ k ∧ k < 12) ∧ month = 12 * year + k :=
  ⟨month / 12, month % 12, by omega, by omega⟩

variable {year k : Int}

theorem firstDay_eq (range : 0 ≤ k ∧ k < 12) : firstDay (12 * year + k) =
    yearDays year + daysBefore k + (if leap year && decide (1 < k) then 1 else 0) - 719528 := by
  have quotient : (12 * year + k) / 12 = year := by omega
  have rest : (12 * year + k) % 12 = k := by omega
  have same : daysBefore (12 * year + k) = daysBefore k := by
    unfold daysBefore
    rw [rest, Int.emod_eq_of_lt range.1 range.2]
  unfold firstDay
  simp only [quotient, rest, same]
  rfl

theorem monthDays_eq (range : 0 ≤ k ∧ k < 12) : monthDays (12 * year + k) =
    if k = 1 then (if leap year then 29 else 28) else if k = 3 ∨ k = 5 ∨ k = 8 ∨ k = 10 then 30 else 31 := by
  have quotient : (12 * year + k) / 12 = year := by omega
  have rest : (12 * year + k) % 12 = k := by omega
  unfold monthDays
  rw [quotient, rest]

/-- Within a year the months follow each other, and February is longer in a leap year. -/
theorem daysBefore_succ (range : 0 ≤ k ∧ k < 11) (long : Bool) :
    daysBefore (k + 1) + (if long && decide (1 < k + 1) then 1 else 0) =
      daysBefore k + (if long && decide (1 < k) then 1 else 0) +
        (if k = 1 then (if long then 29 else 28) else if k = 3 ∨ k = 5 ∨ k = 8 ∨ k = 10 then 30 else 31) := by
  obtain ⟨lower, upper⟩ := range
  cases long <;> interval_cases k <;> rfl

/-- A month begins where the one before it ends. -/
theorem firstDay_succ (month : Int) : firstDay (month + 1) = firstDay month + monthDays month := by
  obtain ⟨year, k, range, rfl⟩ := month_split month
  rw [firstDay_eq range, monthDays_eq range]
  by_cases last : k = 11
  · have next : 12 * year + k + 1 = 12 * (year + 1) + 0 := by omega
    rw [next, firstDay_eq ⟨le_rfl, by decide⟩, yearDays_succ, last]
    have first : daysBefore 0 = 0 := rfl
    have december : daysBefore 11 = 334 := rfl
    cases leap year <;> simp [first, december] <;> omega
  · rw [add_assoc, firstDay_eq ⟨by omega, by omega⟩]
    have within := daysBefore_succ (k := k) ⟨range.1, by omega⟩ (leap year)
    omega

theorem daysBefore_near (range : 0 ≤ k ∧ k < 12) :
    146097 * k - 2 * 4800 ≤ 4800 * daysBefore k ∧ 4800 * daysBefore k ≤ 146097 * k + 4800 := by
  obtain ⟨lower, upper⟩ := range
  interval_cases k <;> decide

/-- A month begins at about its share of the 146097 days that 4800 months have. -/
theorem firstDay_near (month : Int) :
    146097 * month - 5 * 4800 ≤ 4800 * (firstDay month + 719528) ∧
      4800 * (firstDay month + 719528) ≤ 146097 * month + 5 * 4800 := by
  obtain ⟨year, k, range, rfl⟩ := month_split month
  have days := daysBefore_near range
  rw [firstDay_eq range]
  unfold yearDays
  split <;> omega

/-- The month of a day is the one in which it lies. -/
theorem monthOf_spec (day : Int) : firstDay (monthOf day) ≤ day ∧ day < firstDay (monthOf day + 1) := by
  have before := firstDay_near ((day + 719528) * 4800 / 146097 - 1)
  have after := firstDay_near ((day + 719528) * 4800 / 146097 + 2)
  unfold monthOf
  simp only
  split
  · next early =>
    rw [sub_add_cancel]
    exact ⟨by omega, early⟩
  · next start =>
    split
    · next late =>
      refine ⟨late, ?_⟩
      rw [add_assoc, one_add_one_eq_two]
      omega
    · next inside => exact ⟨not_lt.mp start, not_le.mp inside⟩

theorem firstDay_lt_firstDay_iff {month month' : Int} : firstDay month < firstDay month' ↔ month < month' := by
  have mono : StrictMono firstDay := by
    refine strictMono_int_of_lt_succ fun month => ?_
    have days := monthDays_bounds month
    rw [firstDay_succ]
    omega
  exact mono.lt_iff_lt

/-- A day lies in one month only. -/
theorem monthOf_eq_iff {day month : Int} : monthOf day = month ↔ firstDay month ≤ day ∧ day < firstDay (month + 1) := by
  constructor
  · rintro rfl
    exact monthOf_spec day
  · intro ⟨lower, upper⟩
    obtain ⟨lower', upper'⟩ := monthOf_spec day
    have not_before := firstDay_lt_firstDay_iff.mp (lower.trans_lt upper')
    have not_after := firstDay_lt_firstDay_iff.mp (lower'.trans_lt upper)
    omega

/-! ## Intervals of months -/

/-- A day some months later: the day of the month stays, or becomes the last one. -/
def addMonths (day months : Int) : Int :=
  firstDay (monthOf day + months) + min (day - firstDay (monthOf day)) (monthDays (monthOf day + months) - 1)

/-- From the first day of a month one comes to a first day. -/
theorem addMonths_first (month months : Int) : addMonths (firstDay month) months = firstDay (month + months) := by
  have same : monthOf (firstDay month) = month :=
    monthOf_eq_iff.mpr ⟨le_rfl, firstDay_lt_firstDay_iff.mpr (Int.lt_succ month)⟩
  have days := monthDays_bounds (month + months)
  unfold addMonths
  rw [same, sub_self, min_eq_left (by omega), add_zero]

/-- From the last day of a month one comes to the day of the same number, or to the last one. -/
theorem addMonths_last (month months : Int) : addMonths (firstDay month - 1) months =
    firstDay (month - 1 + months) + min (monthDays (month - 1)) (monthDays (month - 1 + months)) - 1 := by
  have length := firstDay_succ (month - 1)
  rw [sub_add_cancel] at length
  have days := monthDays_bounds (month - 1)
  have same : monthOf (firstDay month - 1) = month - 1 := by
    refine monthOf_eq_iff.mpr ⟨by omega, ?_⟩
    rw [sub_add_cancel]
    exact Int.sub_one_lt_of_le le_rfl
  unfold addMonths
  rw [same]
  omega

end Calendar
