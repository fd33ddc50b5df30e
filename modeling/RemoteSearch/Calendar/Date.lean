/-!
# Dates

The Gregorian calendar, extended in both directions. Days are numbered from 1 January 1970, which
is day 0.

A year is found from a day number by an estimate that is off by at most one and then corrected, so
there is no search.
-/

namespace RemoteSearch.Calendar

/-- Whether a year has a 29 February. -/
def isLeap (y : Int) : Bool := (y % 4 == 0 && y % 100 != 0) || y % 400 == 0

/-- The number of the first day of a year. -/
def startOfYear (y : Int) : Int :=
  365 * (y - 1) + (y - 1) / 4 - (y - 1) / 100 + (y - 1) / 400 - 719162

/-- The number of days of a month, 0 if there is no such month. -/
def daysInMonth (y : Int) : Nat → Nat
  | 1 => 31
  | 2 => if isLeap y then 29 else 28
  | 3 => 31
  | 4 => 30
  | 5 => 31
  | 6 => 30
  | 7 => 31
  | 8 => 31
  | 9 => 30
  | 10 => 31
  | 11 => 30
  | 12 => 31
  | _ => 0

/-- How many days of the year come before a month. -/
def daysBeforeMonth (y : Int) : Nat → Nat
  | 0 => 0
  | m + 1 => daysBeforeMonth y m + daysInMonth y m

/-- A day of the calendar. -/
structure Date where
  year : Int
  month : Nat
  day : Nat
  deriving Repr, DecidableEq, Inhabited

namespace Date

/-- The years that are kept track of. -/
def inRange (y : Int) : Bool := -262143 ≤ y && y ≤ 262142

/-- The date with the given parts, if the calendar has it. -/
def make? (y : Int) (m d : Nat) : Option Date :=
  if inRange y && 1 ≤ m && m ≤ 12 && 1 ≤ d && d ≤ daysInMonth y m then some ⟨y, m, d⟩ else none

/-- The number of the day. -/
def dayNumber (d : Date) : Int :=
  startOfYear d.year + daysBeforeMonth d.year d.month + d.day - 1

end Date

/-- The year of a day. -/
def yearOf (n : Int) : Int :=
  let guess := (400 * (n + 719162)) / 146097 + 1
  if n < startOfYear guess then guess - 1
  else if startOfYear (guess + 1) ≤ n then guess + 1
  else guess

/-- **A day lies between the starts of its year and of the next.** -/
theorem startOfYear_yearOf (n : Int) :
    startOfYear (yearOf n) ≤ n ∧ n < startOfYear (yearOf n + 1) := by
  unfold yearOf startOfYear
  dsimp only
  split
  · omega
  · split <;> omega

/-- The days that can be reached, from the first of the first year to the last of the last. -/
def dayInRange (n : Int) : Bool := startOfYear (-262143) ≤ n && n < startOfYear 262143

end RemoteSearch.Calendar
