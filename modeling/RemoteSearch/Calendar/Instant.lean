import RemoteSearch.Calendar.Date

/-!
# Instants

Points in time, as seconds since the start of 1970 in universal time and nanoseconds within the
second. During a leap second the nanoseconds run on past 10⁹ while the second stays.
-/

namespace RemoteSearch.Calendar

/-- A point in time. -/
structure Instant where
  secs : Int
  nanos : Nat
  deriving Repr, DecidableEq, Inhabited

namespace Instant

/-- Whether one instant is not after another. -/
def le (a b : Instant) : Bool := a.secs < b.secs || (a.secs == b.secs && a.nanos ≤ b.nanos)

/-- The instant so many days later. -/
def plusDays (a : Instant) (n : Int) : Instant := { a with secs := a.secs + 86400 * n }

/-- The number of the day in universal time. -/
def dayNumber (a : Instant) : Int := a.secs / 86400

/-- The year in universal time. -/
def year (a : Instant) : Int := yearOf a.dayNumber

/-- Whether the instant lies on a day that can be reached. -/
def inRange (a : Instant) : Bool := dayInRange a.dayNumber

/-- The instant so many milliseconds after the start of 1970. -/
def ofMillis (n : Int) : Instant := ⟨n / 1000, (n % 1000).toNat * 1000000⟩

/-- The start of a day, so many seconds east of universal time. -/
def ofDate (d : Date) : Instant := ⟨86400 * d.dayNumber, 0⟩

end Instant

end RemoteSearch.Calendar
