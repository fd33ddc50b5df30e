import Mathlib.Tactic.IntervalCases
import RemoteSearch.Proofs.Calendar.Layout

/-!
# Days and their dates

The date of a day by its number: the year it lies in, then the last month that does not begin after
it. A day of one year and the day of the next year that has the same date lie at least 365 days
apart, even if one of the years has a 29 February and the other has not.

* `Date.dayNumber_ofDayNumber`: the date of a day has the number of the day.
* `dayNumber_add_le`: dates of two years in a row.
-/

namespace RemoteSearch.Calendar

variable {y n : Int} {m k day : Nat}

/-! ## Months -/

/-- The last of the first months that does not begin after a day of the year, counted from 0. -/
def monthUpTo (y : Int) (k : Nat) : Nat → Nat
  | 0 => 0
  | m + 1 => if daysBeforeMonth y (m + 1) ≤ k then m + 1 else monthUpTo y k m

/-- A day lies in the last month that does not begin after it. -/
theorem monthUpTo_spec (h : k < daysBeforeMonth y (m + 1)) :
    1 ≤ monthUpTo y k m ∧ monthUpTo y k m ≤ m ∧ daysBeforeMonth y (monthUpTo y k m) ≤ k ∧
      k < daysBeforeMonth y (monthUpTo y k m + 1) := by
  induction m with
  | zero => exact absurd h (Nat.not_lt_zero k)
  | succ m ih =>
    rw [monthUpTo]
    split
    · next hle => exact ⟨by omega, Nat.le_refl _, hle, h⟩
    · next hlt =>
      obtain ⟨hpos, hle, hbefore, hafter⟩ := ih (Nat.lt_of_not_le hlt)
      exact ⟨hpos, by omega, hbefore, hafter⟩

/-! ## Dates -/

/-- The date of a day. -/
def Date.ofDayNumber (n : Int) : Date :=
  let y := yearOf n
  let k := (n - startOfYear y).toNat
  let m := monthUpTo y k 12
  ⟨y, m, k - daysBeforeMonth y m + 1⟩

theorem Date.year_ofDayNumber (n : Int) : (ofDayNumber n).year = yearOf n := rfl

/-- The day of the year that the month is found from, and where it lies in this month. -/
theorem Date.exists_ofDayNumber (n : Int) :
    ∃ k : Nat, startOfYear (yearOf n) + k = n ∧
      (1 ≤ (ofDayNumber n).month ∧ (ofDayNumber n).month ≤ 12) ∧
      daysBeforeMonth (yearOf n) (ofDayNumber n).month ≤ k ∧
      k < daysBeforeMonth (yearOf n) ((ofDayNumber n).month + 1) ∧
      (ofDayNumber n).day = k - daysBeforeMonth (yearOf n) (ofDayNumber n).month + 1 := by
  obtain ⟨hstart, hend⟩ := startOfYear_yearOf n
  rw [startOfYear_succ] at hend
  have hk : (n - startOfYear (yearOf n)).toNat < daysBeforeMonth (yearOf n) 13 := by omega
  obtain ⟨hpos, hle, hbefore, hafter⟩ := monthUpTo_spec hk
  exact ⟨_, by omega, ⟨hpos, hle⟩, hbefore, hafter, rfl⟩

/-- The date of a day is one of the calendar. -/
theorem Date.day_ofDayNumber_mem (n : Int) :
    1 ≤ (ofDayNumber n).day ∧
      (ofDayNumber n).day ≤ daysInMonth (ofDayNumber n).year (ofDayNumber n).month := by
  obtain ⟨k, -, -, hbefore, hafter, hday⟩ := exists_ofDayNumber n
  rw [daysBeforeMonth] at hafter
  rw [hday, year_ofDayNumber]
  omega

theorem Date.day_ofDayNumber_lt (n : Int) : (ofDayNumber n).day < 100 := by
  have := day_ofDayNumber_mem n
  have := daysInMonth_le (ofDayNumber n).year (ofDayNumber n).month
  omega

/-- **The date of a day has the number of the day.** -/
theorem Date.dayNumber_ofDayNumber (n : Int) : (ofDayNumber n).dayNumber = n := by
  obtain ⟨k, hk, -, hbefore, -, hday⟩ := exists_ofDayNumber n
  rw [dayNumber, hday, year_ofDayNumber]
  omega

/-! ## Years -/

/-- A year is longer than another by no more than its 29 February, up to any month. -/
theorem daysBeforeMonth_le_add (y z : Int) (hm : m ≤ 12) :
    daysBeforeMonth y m + 365 ≤ daysBeforeMonth y 13 + daysBeforeMonth z m := by
  have hfebruary : ∀ y, 28 ≤ daysInMonth y 2 ∧ daysInMonth y 2 ≤ 29 := by
    intro y
    rw [daysInMonth]
    split <;> decide
  obtain ⟨hy, hy'⟩ := hfebruary y
  obtain ⟨hz, hz'⟩ := hfebruary z
  simp only [daysInMonth] at hy hy' hz hz'
  interval_cases m <;> simp only [daysBeforeMonth, daysInMonth] <;> omega

/-- **Dates of two years in a row lie a year apart at least.** -/
theorem dayNumber_add_le (hm : m ≤ 12) :
    (Date.mk y m day).dayNumber + 365 ≤ (Date.mk (y + 1) m day).dayNumber := by
  have hdays := daysBeforeMonth_le_add y (y + 1) hm
  simp only [Date.dayNumber, startOfYear_succ]
  omega

/-- Years are at least 365 days long. -/
theorem startOfYear_mono {z : Int} (h : y ≤ z) : startOfYear y + 365 * (z - y) ≤ startOfYear z := by
  unfold startOfYear
  omega

/-- Days that can be reached lie in years that are kept track of. -/
theorem inRange_yearOf (h : dayInRange n = true) : Date.inRange (yearOf n) = true := by
  simp only [dayInRange, Bool.and_eq_true, decide_eq_true_eq] at h
  obtain ⟨hstart, hend⟩ := startOfYear_yearOf n
  have hlow : -262143 ≤ yearOf n := by
    by_contra hlt
    have := startOfYear_mono (y := yearOf n + 1) (z := -262143) (by omega)
    omega
  have hhigh : yearOf n ≤ 262142 := by
    by_contra hlt
    have := startOfYear_mono (y := 262143) (z := yearOf n) (by omega)
    omega
  simp [Date.inRange, hlow, hhigh]

/-- So their dates are dates of the calendar. -/
theorem Date.make?_ofDayNumber (h : dayInRange n = true) :
    Date.make? (yearOf n) (ofDayNumber n).month (ofDayNumber n).day = some (ofDayNumber n) := by
  obtain ⟨-, -, hmonth, -⟩ := exists_ofDayNumber n
  have hday := day_ofDayNumber_mem n
  rw [year_ofDayNumber] at hday
  simp [make?, inRange_yearOf h, hmonth, hday]
  rfl

end RemoteSearch.Calendar
