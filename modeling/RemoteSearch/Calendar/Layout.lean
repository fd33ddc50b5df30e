import RemoteSearch.Calendar.Instant
import RemoteSearch.Text.Blank
import RemoteSearch.Text.Numeral

/-!
# Layouts of dates

A written date is read item by item along a layout. Every item takes a piece off the front of the
text and notes what it says; at the end nothing may be left over, and the notes must make a day of
the calendar and a time of the day.

Numbers take at most as many digits as their item allows and may have blanks in front. A year may
carry a sign and then has no limit on its digits. Names of months may be in either case.
-/

namespace RemoteSearch.Calendar

open Text

/-- A part of a layout. -/
inductive Item where
  /-- Exactly this character. -/
  | sign (c : Char)
  /-- Any number of blanks. -/
  | blanks
  | year
  | month
  /-- The first three letters of the English name of a month. -/
  | monthName
  | day
  | hour
  | minute
  | second
  /-- A point and digits, or nothing. -/
  | fraction
  /-- Hours and minutes ahead of universal time. -/
  | zone
  deriving Repr, DecidableEq, Inhabited

/-- What a text says about a point in time. -/
structure Notes where
  year : Option Int := none
  month : Option Nat := none
  day : Option Nat := none
  hour : Option Nat := none
  minute : Option Nat := none
  second : Nat := 0
  nanos : Nat := 0
  /-- Seconds ahead of universal time. -/
  ahead : Int := 0
  deriving Repr, DecidableEq, Inhabited

/-- Whether a character is one of the ten digits. -/
def isDigit (c : Char) : Bool := (digitValue c).isSome

/-- A number of one to `width` digits, after any blanks. -/
def takeNumber (width : Nat) (l : List Char) : Option (Nat × List Char) :=
  let l := trimStart l
  let digits := (l.take width).takeWhile isDigit
  (natOfDigits digits).map (·, l.drop digits.length)

/-- A number of any length with a sign, or of one to four digits without. -/
def takeYear (l : List Char) : Option (Int × List Char) :=
  let signed (l : List Char) : Option (Nat × List Char) :=
    (natOfDigits (l.takeWhile isDigit)).map (·, l.dropWhile isDigit)
  match trimStart l with
  | '-' :: r => (signed r).map fun (n, r) => (-(n : Int), r)
  | '+' :: r => (signed r).map fun (n, r) => ((n : Int), r)
  | l => (takeNumber 4 l).map fun (n, r) => ((n : Int), r)

/-- The names of the months in order. -/
def monthNames : List (List Char) :=
  [['j', 'a', 'n'], ['f', 'e', 'b'], ['m', 'a', 'r'], ['a', 'p', 'r'], ['m', 'a', 'y'],
    ['j', 'u', 'n'], ['j', 'u', 'l'], ['a', 'u', 'g'], ['s', 'e', 'p'], ['o', 'c', 't'],
    ['n', 'o', 'v'], ['d', 'e', 'c']]

/-- The number of the month whose name stands in front. -/
def takeMonthName (l : List Char) : Option (Nat × List Char) :=
  (monthNames.idxOf? ((l.take 3).map Char.toLower)).map fun i => (i + 1, l.drop 3)

/-- Nanoseconds from the digits after a point; digits from the tenth on do not count. -/
def nanosOf (digits : List Char) : Option Nat :=
  let kept := digits.take 9
  (natOfDigits kept).map (· * Nat.pow 10 (9 - kept.length))

/-- The fraction of a second that stands in front, none at all if there is no point. -/
def takeFraction (l : List Char) : Option (Nat × List Char) :=
  match l with
  | '.' :: r => (nanosOf (r.takeWhile isDigit)).map (·, r.dropWhile isDigit)
  | l => some (0, l)

/-- Two digits that stand in front. -/
def takeTwo (l : List Char) : Option (Nat × List Char) :=
  match l with
  | a :: b :: r => do
    let a ← digitValue a
    let b ← digitValue b
    some (10 * a + b, r)
  | _ => none

/--
An offset that stands in front: a sign, two digits of hours, any colons and blanks, two digits of
minutes below 60. It is less than a day.
-/
def takeZone (l : List Char) : Option (Int × List Char) := do
  let (negative, l) ← match trimStart l with
    | '+' :: r => some (false, r)
    | '-' :: r => some (true, r)
    | '\u2212' :: r => some (true, r)
    | _ => none
  let (hours, l) ← takeTwo l
  let (minutes, l) ← takeTwo (l.dropWhile fun c => c == ':' || isBlank c)
  if minutes < 60 ∧ hours < 24 then
    let ahead : Int := (hours * 3600 + minutes * 60 : Nat)
    some (if negative then -ahead else ahead, l)
  else none

/-- Reads one item. -/
def Item.take (i : Item) (l : List Char) (notes : Notes) : Option (Notes × List Char) :=
  match i with
  | sign c => match l with
    | d :: r => if d = c then some (notes, r) else none
    | [] => none
  | blanks => some (notes, trimStart l)
  | year => (takeYear l).map fun (n, r) => ({ notes with year := some n }, r)
  | month => (takeNumber 2 l).map fun (n, r) => ({ notes with month := some n }, r)
  | monthName => (takeMonthName l).map fun (n, r) => ({ notes with month := some n }, r)
  | day => (takeNumber 2 l).map fun (n, r) => ({ notes with day := some n }, r)
  | hour => (takeNumber 2 l).map fun (n, r) => ({ notes with hour := some n }, r)
  | minute => (takeNumber 2 l).map fun (n, r) => ({ notes with minute := some n }, r)
  | second => (takeNumber 2 l).map fun (n, r) => ({ notes with second := n }, r)
  | fraction => (takeFraction l).map fun (n, r) => ({ notes with nanos := n }, r)
  | zone => (takeZone l).map fun (n, r) => ({ notes with ahead := n }, r)

/-- Reads a text along a layout to its end. -/
def readNotes : List Item → Notes → List Char → Option Notes
  | [], notes, l => if l.isEmpty then some notes else none
  | i :: is, notes, l => (i.take l notes).bind fun (notes, r) => readNotes is notes r

namespace Notes

/-- The day that the notes name. -/
def date? (n : Notes) : Option Date := do Date.make? (← n.year) (← n.month) (← n.day)

/--
The point in time that the notes name. A 61st second is the leap second after the 60th, and both
the day named and the day in universal time have to be in range.
-/
def instant? (n : Notes) : Option Instant := do
  let date ← n.date?
  let hour ← n.hour
  let minute ← n.minute
  if hour < 24 ∧ minute < 60 ∧ n.second ≤ 60 then
    let leap := n.second == 60
    let time : Int := (hour * 3600 + minute * 60 + (if leap then 59 else n.second) : Nat)
    let result : Instant :=
      ⟨86400 * date.dayNumber + time - n.ahead, if leap then n.nanos + 1000000000 else n.nanos⟩
    if result.inRange then some result else none
  else none

end Notes

/-- The point in time written in a layout. -/
def readInstant (layout : List Item) (l : List Char) : Option Instant :=
  (readNotes layout {} l).bind Notes.instant?

/-- The start of the day written in a layout. -/
def readDate (layout : List Item) (l : List Char) : Option Instant :=
  (readNotes layout {} l).bind fun n => n.date?.map Instant.ofDate

end RemoteSearch.Calendar
