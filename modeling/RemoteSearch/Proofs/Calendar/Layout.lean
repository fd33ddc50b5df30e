import Mathlib.Algebra.Group.Nat.Defs
import RemoteSearch.Calendar.Layout
import RemoteSearch.Proofs.Text.Blank

/-!
# Written dates

Dates and times of day as they are written, and that every item of a layout takes off the text what
was written for it. What follows a number must not begin with a digit, and is handed on untouched.

* `Day`, `Clock` and `Offset` are what can be written: a day of a year of four digits, a time of the
  day that may lie in a leap second, and an offset from universal time.
* `dayNumber_next` says that day numbers count the days of the calendar one by one.
* `instant?_notesOf`: notes of a day, a time and an offset make the instant that these stand for.
-/

namespace RemoteSearch.Calendar

open Text

variable {width n : Nat} {w r : List Char} {is : List Item} {notes notes' : Notes} {l : List Char}

/-! ## Numbers -/

/-- The digits of a number, with zeros in front of them up to a width. -/
def padded (width n : Nat) : List Char :=
  List.replicate (width - (digitsOf n).length) '0' ++ digitsOf n

/-- A text of no more than some number of digits that stands for a number. -/
structure IsNumeral (width n : Nat) (w : List Char) : Prop where
  length_le : w.length ≤ width
  digits : ∀ c ∈ w, c.isDigit = true
  value : natOfDigits w = some n

/-- What a text begins with, if with anything, is no digit. -/
def NoDigit (l : List Char) : Prop := ∀ c ∈ l.head?, isDigit c = false

theorem length_digitsOf_le (hw : 0 < width) (h : n < 10 ^ width) : (digitsOf n).length ≤ width :=
  (Nat.length_toDigits_le_iff (by decide) hw).mpr h

theorem length_padded (hw : 0 < width) (h : n < 10 ^ width) : (padded width n).length = width := by
  have := length_digitsOf_le hw h
  simp only [padded, List.length_append, List.length_replicate]
  omega

/-- Zeros in front of digits change nothing. -/
theorem readDigits_zeros (k : Nat) (l : List Char) :
    readDigits 0 (List.replicate k '0' ++ l) = readDigits 0 l := by
  induction k with
  | zero => rfl
  | succ k ih => exact ih

theorem isNumeral_padded (width n : Nat) (hw : 0 < width) (h : n < 10 ^ width) :
    IsNumeral width n (padded width n) where
  length_le := Nat.le_of_eq (length_padded hw h)
  digits := by
    intro c hc
    rcases List.mem_append.mp hc with hc | hc
    · rw [List.eq_of_mem_replicate hc]
      decide
    · exact isDigit_of_mem_digitsOf hc
  value := by
    have hne : (padded width n).isEmpty = false := by
      simp [padded, digitsOf]
    rw [natOfDigits, hne, padded, readDigits_zeros]
    rw [← natOfDigits_digitsOf n, natOfDigits]
    simp [digitsOf, Nat.toDigits_ne_nil]

theorem isNumeral_digitsOf (width n : Nat) (hw : 0 < width) (h : n < 10 ^ width) :
    IsNumeral width n (digitsOf n) :=
  ⟨length_digitsOf_le hw h, fun _ hc => isDigit_of_mem_digitsOf hc, natOfDigits_digitsOf n⟩

/-- Any number is a numeral of as many digits as it has. -/
theorem isNumeral_own (n : Nat) : IsNumeral (digitsOf n).length n (digitsOf n) :=
  ⟨Nat.le_refl _, fun _ hc => isDigit_of_mem_digitsOf hc, natOfDigits_digitsOf n⟩

theorem isDigit_eq_true {c : Char} (h : c.isDigit = true) : isDigit c = true := by
  rw [isDigit, digitValue_of_isDigit h]
  rfl

namespace IsNumeral

variable (h : IsNumeral width n w)
include h

theorem ne_nil : w ≠ [] := by
  rintro rfl
  cases h.value

theorem isSolid : IsSolid w := fun c hc => isSolid_digit (h.digits c hc)

theorem trimStart_append (r : List Char) : trimStart (w ++ r) = w ++ r := by
  obtain ⟨c, t, rfl⟩ := List.exists_cons_of_ne_nil h.ne_nil
  exact trimStart_cons (h.isSolid c (by simp))

theorem takeWhile_append (hr : NoDigit r) : (w ++ r).takeWhile isDigit = w := by
  rw [List.takeWhile_append_of_pos fun c hc => isDigit_eq_true (h.digits c hc)]
  cases r with
  | nil => exact List.append_nil w
  | cons c r => rw [List.takeWhile_cons_of_neg (by simp [hr c (by simp)]), List.append_nil]

theorem dropWhile_append (hr : NoDigit r) : (w ++ r).dropWhile isDigit = r := by
  rw [List.dropWhile_append_of_pos fun c hc => isDigit_eq_true (h.digits c hc)]
  cases r with
  | nil => rfl
  | cons c r => rw [List.dropWhile_cons_of_neg (by simp [hr c (by simp)])]

theorem dropWhile_separators (r : List Char) :
    (w ++ r).dropWhile (fun c => c == ':' || isBlank c) = w ++ r := by
  obtain ⟨c, t, rfl⟩ := List.exists_cons_of_ne_nil h.ne_nil
  have hc := h.digits c (by simp)
  have hcolon : c ≠ ':' := by
    rintro rfl
    cases hc
  exact List.dropWhile_cons_of_neg (by simp [hcolon, isSolid_digit hc])

/-- **A number is taken off the text as it was written.** -/
theorem takeNumber_append (hr : NoDigit r) : takeNumber width (w ++ r) = some (n, r) := by
  have hhead : NoDigit (r.take (width - w.length)) := by
    intro c hc
    rw [List.head?_take] at hc
    split at hc
    · cases hc
    · exact hr c hc
  -- a number may be shorter than its width, and then it ends where no digit follows
  have htake : ((w ++ r).take width).takeWhile isDigit = w := by
    rw [List.take_append, List.take_of_length_le h.length_le, h.takeWhile_append hhead]
  rw [takeNumber, h.trimStart_append]
  simp only [htake, h.value, Option.map_some, List.drop_left]

end IsNumeral

/-! ## Items -/

/-- Reading goes on after an item that takes something. -/
theorem readNotes_cons {i : Item} (h : i.take l notes = some (notes', r)) :
    readNotes (i :: is) notes l = readNotes is notes' r := by
  rw [readNotes, h]
  rfl

theorem take_sign (c : Char) : (Item.sign c).take (c :: r) notes = some (notes, r) := by
  simp [Item.take]

/-- One blank is skipped. -/
theorem take_blank (h : trimStart l = l) : Item.blanks.take (' ' :: l) notes = some (notes, l) := by
  have hblank : trimStart (' ' :: l) = trimStart l := List.dropWhile_cons_of_pos (by decide)
  rw [Item.take, hblank, h]

theorem take_year (h : IsNumeral 4 n w) (hr : NoDigit r) :
    Item.year.take (w ++ r) notes = some ({ notes with year := some (n : Int) }, r) := by
  have hyear : takeYear (w ++ r) = some ((n : Int), r) := by
    obtain ⟨c, t, rfl⟩ := List.exists_cons_of_ne_nil h.ne_nil
    have hc := h.digits c (by simp)
    unfold takeYear
    rw [h.trimStart_append]
    split
    · next hl => cases hl; cases hc
    · next hl => cases hl; cases hc
    · rw [h.takeNumber_append hr]
      rfl
  rw [Item.take, hyear]
  rfl

theorem take_month (h : IsNumeral 2 n w) (hr : NoDigit r) :
    Item.month.take (w ++ r) notes = some ({ notes with month := some n }, r) := by
  rw [Item.take, h.takeNumber_append hr]
  rfl

theorem take_day (h : IsNumeral 2 n w) (hr : NoDigit r) :
    Item.day.take (w ++ r) notes = some ({ notes with day := some n }, r) := by
  rw [Item.take, h.takeNumber_append hr]
  rfl

theorem take_hour (h : IsNumeral 2 n w) (hr : NoDigit r) :
    Item.hour.take (w ++ r) notes = some ({ notes with hour := some n }, r) := by
  rw [Item.take, h.takeNumber_append hr]
  rfl

theorem take_minute (h : IsNumeral 2 n w) (hr : NoDigit r) :
    Item.minute.take (w ++ r) notes = some ({ notes with minute := some n }, r) := by
  rw [Item.take, h.takeNumber_append hr]
  rfl

theorem take_second (h : IsNumeral 2 n w) (hr : NoDigit r) :
    Item.second.take (w ++ r) notes = some ({ notes with second := n }, r) := by
  rw [Item.take, h.takeNumber_append hr]
  rfl

/-- Nine digits after a point are nanoseconds, so nothing is scaled. -/
theorem take_fraction (h : IsNumeral 9 n w) (h9 : w.length = 9) (hr : NoDigit r) :
    Item.fraction.take ('.' :: (w ++ r)) notes = some ({ notes with nanos := n }, r) := by
  have hnanos : nanosOf w = some n := by
    simp [nanosOf, List.take_of_length_le h.length_le, h.value, h9]
  rw [Item.take, takeFraction, h.takeWhile_append hr, h.dropWhile_append hr, hnanos]
  rfl

/-! ## Months -/

/-- The first three letters of the English name of a month, as they are printed. -/
def monthTitle (m : Nat) : List Char :=
  match monthNames[m - 1]? with
  | some (c :: rest) => c.toUpper :: rest
  | _ => []

/-- The titles of the months have three letters each, and are known by them. -/
theorem monthTitle_spec (m : Nat) (h : 1 ≤ m ∧ m ≤ 12) :
    (monthTitle m).length = 3 ∧ IsSolid (monthTitle m) ∧
      monthNames.idxOf? ((monthTitle m).map Char.toLower) = some (m - 1) := by
  have hall : ∀ i : Fin 12, (monthTitle (i + 1)).length = 3 ∧ IsSolid (monthTitle (i + 1)) ∧
      monthNames.idxOf? ((monthTitle (i + 1)).map Char.toLower) = some i.val := by
    decide
  obtain ⟨k, rfl⟩ := Nat.exists_eq_add_of_le' h.1
  exact hall ⟨k, by omega⟩

theorem take_monthTitle {m : Nat} (h : 1 ≤ m ∧ m ≤ 12) :
    Item.monthName.take (monthTitle m ++ r) notes = some ({ notes with month := some m }, r) := by
  obtain ⟨hlength, -, hindex⟩ := monthTitle_spec m h
  have hname : takeMonthName (monthTitle m ++ r) = some (m, r) := by
    rw [takeMonthName, List.take_left' hlength, hindex, List.drop_left' hlength]
    simp [Nat.sub_add_cancel h.1]
  rw [Item.take, hname]
  rfl

/-! ## Days -/

/-- A day of the calendar in a year of four digits. -/
structure Day where
  date : Date
  year_mem : 1000 ≤ date.year ∧ date.year ≤ 9999
  month_mem : 1 ≤ date.month ∧ date.month ≤ 12
  day_mem : 1 ≤ date.day ∧ date.day ≤ daysInMonth date.year date.month
  deriving DecidableEq

/-- The day after a day of the calendar. -/
def Date.next (d : Date) : Date :=
  if d.day < daysInMonth d.year d.month then { d with day := d.day + 1 }
  else if d.month < 12 then ⟨d.year, d.month + 1, 1⟩
  else ⟨d.year + 1, 1, 1⟩

/-- A year has 365 days, and one more if it is a leap year. -/
theorem startOfYear_succ (y : Int) :
    startOfYear (y + 1) = startOfYear y + daysBeforeMonth y 13 := by
  have hdays : (daysBeforeMonth y 13 : Int) = if isLeap y then 366 else 365 := by
    simp only [daysBeforeMonth, daysInMonth]
    split <;> rfl
  rw [hdays]
  unfold startOfYear
  by_cases h : isLeap y = true
  · rw [if_pos h]
    simp only [isLeap, Bool.or_eq_true, Bool.and_eq_true, beq_iff_eq, bne_iff_ne] at h
    omega
  · rw [if_neg h]
    simp only [isLeap, Bool.or_eq_true, Bool.and_eq_true, beq_iff_eq, bne_iff_ne] at h
    omega

/-- **Day numbers count the days of the calendar one by one.** -/
theorem dayNumber_next {d : Date} (hm : 1 ≤ d.month ∧ d.month ≤ 12)
    (hd : 1 ≤ d.day ∧ d.day ≤ daysInMonth d.year d.month) :
    d.next.dayNumber = d.dayNumber + 1 := by
  unfold Date.next
  split
  · simp only [Date.dayNumber]
    omega
  · split
    · simp only [Date.dayNumber, daysBeforeMonth]
      omega
    · -- the days of all months make up the year, so the next year begins on the next day
      obtain ⟨y, m, k⟩ := d
      obtain rfl : m = 12 := by simp only at *; omega
      have hbefore : daysBeforeMonth (y + 1) 1 = 0 := rfl
      have hyear : daysBeforeMonth y 13 = daysBeforeMonth y 12 + daysInMonth y 12 := rfl
      simp only [Date.dayNumber, startOfYear_succ, hbefore, hyear] at *
      omega

example : (⟨1970, 1, 1⟩ : Date).dayNumber = 0 := by decide

theorem daysInMonth_le (y : Int) (m : Nat) : daysInMonth y m ≤ 31 := by
  unfold daysInMonth
  split <;> first | omega | (split <;> omega)

theorem daysBeforeMonth_le (y : Int) (m : Nat) : daysBeforeMonth y m ≤ 31 * m := by
  induction m with
  | zero => exact Nat.le_refl 0
  | succ m ih =>
    have := daysInMonth_le y m
    rw [daysBeforeMonth]
    omega

/-- A day of the month after a month's name, which may be filled up with a zero. -/
def dayText (filled : Bool) (day : Nat) : List Char := if filled then padded 2 day else digitsOf day

theorem isNumeral_dayText {day : Nat} (h : day < 100) (filled : Bool) :
    IsNumeral 2 day (dayText filled day) := by
  cases filled with
  | false => exact isNumeral_digitsOf 2 _ (by decide) h
  | true => exact isNumeral_padded 2 _ (by decide) h

/-- Reading a month's name and a day. -/
theorem readNotes_monthDay {month day : Nat} (hm : 1 ≤ month ∧ month ≤ 12) (hd : day < 100)
    (filled : Bool) (hr : NoDigit r) :
    readNotes (.monthName :: .blanks :: .day :: is) {}
        (monthTitle month ++ ' ' :: (dayText filled day ++ r)) =
      readNotes is { month := some month, day := some day } r := by
  have hday := isNumeral_dayText hd filled
  rw [readNotes_cons (take_monthTitle hm), readNotes_cons (take_blank (hday.trimStart_append _)),
    readNotes_cons (take_day hday hr)]

namespace Day

variable (d : Day)

theorem make?_eq : Date.make? d.date.year d.date.month d.date.day = some d.date := by
  obtain ⟨⟨y, m, k⟩, ⟨h1, h2⟩, ⟨h3, h4⟩, ⟨h5, h6⟩⟩ := d
  simp only at h1 h2 h3 h4 h5 h6
  have h7 : -262143 ≤ y := by omega
  have h8 : y ≤ 262142 := by omega
  simp [Date.make?, Date.inRange, h3, h4, h5, h6, h7, h8]

theorem isNumeral_year : IsNumeral 4 d.date.year.toNat (padded 4 d.date.year.toNat) := by
  have := d.year_mem
  exact isNumeral_padded 4 _ (by decide) (by omega)

theorem toNat_year : (d.date.year.toNat : Int) = d.date.year := by
  have := d.year_mem
  omega

theorem isNumeral_month : IsNumeral 2 d.date.month (padded 2 d.date.month) := by
  have := d.month_mem
  exact isNumeral_padded 2 _ (by decide) (by omega)

theorem day_lt : d.date.day < 100 := by
  have := d.day_mem
  have := daysInMonth_le d.date.year d.date.month
  omega

theorem isNumeral_day : IsNumeral 2 d.date.day (padded 2 d.date.day) :=
  isNumeral_padded 2 _ (by decide) d.day_lt

theorem isNumeral_dayText (filled : Bool) : IsNumeral 2 d.date.day (dayText filled d.date.day) :=
  Calendar.isNumeral_dayText d.day_lt filled

/-- Such days are far from the ends of what can be reached. -/
theorem dayNumber_mem : -400000 < d.date.dayNumber ∧ d.date.dayNumber < 3000000 := by
  obtain ⟨⟨y, m, k⟩, hy, hm, hk⟩ := d
  simp only at hy hm hk
  have h1 := daysBeforeMonth_le y m
  have h2 := daysInMonth_le y m
  simp only [Date.dayNumber, startOfYear]
  omega

/-- A time within two days of such a day can be reached. -/
theorem inRange {secs : Int} {nanos : Nat} (h : -86400 ≤ secs ∧ secs < 172800) :
    (⟨86400 * d.date.dayNumber + secs, nanos⟩ : Instant).inRange = true := by
  have hd := d.dayNumber_mem
  simp only [Instant.inRange, dayInRange, Bool.and_eq_true, decide_eq_true_eq]
  simp only [Instant.dayNumber, startOfYear]
  omega

end Day

/-! ## Times -/

/-- A time of the day; the 61st second is a leap second. -/
structure Clock where
  hour : Fin 24
  minute : Fin 60
  second : Fin 61
  deriving DecidableEq

namespace Clock

/-- The seconds of the day that are over; a leap second belongs to the second before it. -/
def seconds (t : Clock) : Nat := 3600 * t.hour + 60 * t.minute + min t.second.val 59

/-- The nanoseconds that a leap second is late. -/
def lateNanos (t : Clock) : Nat := if t.second.val = 60 then 1000000000 else 0

/-- Hours, minutes and seconds with colons between them. -/
def text (t : Clock) : List Char :=
  padded 2 t.hour ++ ':' :: (padded 2 t.minute ++ ':' :: padded 2 t.second)

theorem isNumeral_hour (t : Clock) : IsNumeral 2 t.hour (padded 2 t.hour) :=
  isNumeral_padded 2 _ (by decide) (by omega)

theorem isNumeral_minute (t : Clock) : IsNumeral 2 t.minute (padded 2 t.minute) :=
  isNumeral_padded 2 _ (by decide) (by omega)

theorem isNumeral_second (t : Clock) : IsNumeral 2 t.second (padded 2 t.second) :=
  isNumeral_padded 2 _ (by decide) (by omega)

theorem trimStart_append (t : Clock) (r : List Char) : trimStart (t.text ++ r) = t.text ++ r := by
  rw [text, List.append_assoc]
  exact t.isNumeral_hour.trimStart_append _

theorem isSolid_text (t : Clock) : IsSolid t.text :=
  List.forall_mem_append.mpr ⟨t.isNumeral_hour.isSolid, List.forall_mem_cons.mpr ⟨by decide,
    List.forall_mem_append.mpr ⟨t.isNumeral_minute.isSolid,
      List.forall_mem_cons.mpr ⟨by decide, t.isNumeral_second.isSolid⟩⟩⟩⟩

theorem text_ne_nil (t : Clock) : t.text ≠ [] := by simp [text]

theorem seconds_lt (t : Clock) : t.seconds < 86400 := by
  obtain ⟨h, m, s⟩ := t
  simp only [seconds]
  omega

end Clock

/-- How far a place is ahead of universal time, or behind it. -/
structure Offset where
  behind : Bool
  hours : Fin 24
  minutes : Fin 60
  deriving DecidableEq

namespace Offset

/-- The seconds ahead of universal time. -/
def ahead (z : Offset) : Int :=
  let seconds : Nat := 3600 * z.hours + 60 * z.minutes
  if z.behind then -seconds else seconds

/-- A sign, two digits of hours and two of minutes. -/
def text (z : Offset) : List Char :=
  (if z.behind then '-' else '+') :: (padded 2 z.hours ++ padded 2 z.minutes)

theorem trimStart_append (z : Offset) (r : List Char) :
    trimStart (z.text ++ r) = z.text ++ r := by
  unfold text
  split <;> exact trimStart_cons (by decide)

theorem isSolid_text (z : Offset) : IsSolid z.text := by
  have hhours := isNumeral_padded 2 z.hours (by decide) (by omega)
  have hminutes := isNumeral_padded 2 z.minutes (by decide) (by omega)
  refine List.forall_mem_cons.mpr
    ⟨?_, List.forall_mem_append.mpr ⟨hhours.isSolid, hminutes.isSolid⟩⟩
  split <;> decide

theorem text_ne_nil (z : Offset) : z.text ≠ [] := by simp [text]

theorem ahead_mem (z : Offset) : -86400 < z.ahead ∧ z.ahead < 86400 := by
  obtain ⟨b, h, m⟩ := z
  simp only [ahead]
  split <;> omega

end Offset

theorem noDigit_nil : NoDigit [] := nofun

theorem noDigit_cons {c : Char} (h : isDigit c = false) : NoDigit (c :: r) := by
  intro d hd
  cases hd
  exact h

theorem readNotes_clock (t : Clock) (hr : NoDigit r) :
    readNotes (.hour :: .sign ':' :: .minute :: .sign ':' :: .second :: is) notes (t.text ++ r) =
      readNotes is { notes with
        hour := some t.hour.val, minute := some t.minute.val, second := t.second.val } r := by
  have hcolon : ∀ l, NoDigit (':' :: l) := fun l => noDigit_cons (by decide)
  rw [Clock.text, List.append_assoc, List.cons_append, List.append_assoc, List.cons_append,
    readNotes_cons (take_hour t.isNumeral_hour (hcolon _)), readNotes_cons (take_sign ':'),
    readNotes_cons (take_minute t.isNumeral_minute (hcolon _)), readNotes_cons (take_sign ':'),
    readNotes_cons (take_second t.isNumeral_second hr)]

/-- Two digits are taken as they are written. -/
theorem takeTwo_padded (h : n < 100) : takeTwo (padded 2 n ++ r) = some (n, r) := by
  have hall : ∀ n : Fin 100, ∃ a b, padded 2 n = [a, b] ∧
      digitValue a = some (n.val / 10) ∧ digitValue b = some (n.val % 10) := by
    intro n
    refine ⟨Nat.digitChar (n / 10), Nat.digitChar (n % 10), ?_, ?_, ?_⟩ <;>
    · revert n
      decide
  obtain ⟨a, b, he, ha, hb⟩ := hall ⟨n, h⟩
  simp only at he ha hb
  rw [he]
  simp [takeTwo, ha, hb, Nat.div_add_mod]

theorem take_zone (z : Offset) :
    Item.zone.take (z.text ++ r) notes = some ({ notes with ahead := z.ahead }, r) := by
  obtain ⟨behind, hours, minutes⟩ := z
  have hzone : takeZone ((Offset.mk behind hours minutes).text ++ r) =
      some ((Offset.mk behind hours minutes).ahead, r) := by
    have hhours : hours.val < 100 := by omega
    have hminute : minutes.val < 60 ∧ hours.val < 24 := ⟨minutes.isLt, hours.isLt⟩
    have htwo : takeTwo (padded 2 minutes ++ r) = some (minutes.val, r) :=
      takeTwo_padded (by omega)
    have hminutes := (isNumeral_padded 2 minutes (by decide) (by omega)).dropWhile_separators r
    unfold takeZone Offset.text Offset.ahead
    cases behind with
    | false =>
      simp only [Bool.false_eq_true, if_false, List.cons_append, List.append_assoc]
      rw [trimStart_cons (by decide)]
      simp [takeTwo_padded hhours, hminutes, htwo, hminute]
      omega
    | true =>
      simp only [if_true, List.cons_append, List.append_assoc]
      rw [trimStart_cons (by decide)]
      simp [takeTwo_padded hhours, hminutes, htwo, hminute]
      omega
  rw [Item.take, hzone]
  rfl

/-! ## Notes -/

/-- The notes of a day. -/
def Day.toNotes (d : Day) : Notes where
  year := some d.date.year
  month := some d.date.month
  day := some d.date.day

theorem Day.date?_toNotes (d : Day) : d.toNotes.date? = some d.date := d.make?_eq

/-- The notes of a day, a time, a fraction and an offset. -/
def notesOf (d : Day) (t : Clock) (nanos : Nat) (ahead : Int) : Notes :=
  { d.toNotes with
    hour := some t.hour.val
    minute := some t.minute.val
    second := t.second.val
    nanos
    ahead }

/--
**A day, a time and an offset make the instant that they stand for**: a time so many seconds ahead
of universal time is so many seconds earlier there.
-/
theorem instant?_notesOf (d : Day) (t : Clock) (nanos : Nat) {ahead : Int}
    (h : -86400 < ahead ∧ ahead < 86400) :
    (notesOf d t nanos ahead).instant? =
      some ⟨86400 * d.date.dayNumber + t.seconds - ahead, nanos + t.lateNanos⟩ := by
  have hdate : (notesOf d t nanos ahead).date? = some d.date := d.date?_toNotes
  have hrange : (⟨86400 * d.date.dayNumber + t.seconds - ahead, nanos + t.lateNanos⟩ :
      Instant).inRange = true := by
    have := t.seconds_lt
    rw [Int.add_sub_assoc]
    exact d.inRange (by omega)
  have hbounds : t.hour.val < 24 ∧ t.minute.val < 60 ∧ t.second.val ≤ 60 := by omega
  have hlate : (if t.second.val = 60 then nanos + 1000000000 else nanos) = nanos + t.lateNanos := by
    rw [Clock.lateNanos]
    split <;> rfl
  have hseconds : (t.hour.val * 3600 + t.minute.val * 60 +
      if t.second.val = 60 then 59 else t.second.val) = t.seconds := by
    rw [Clock.seconds]
    split <;> omega
  rw [Notes.instant?, hdate]
  simp only [notesOf, Option.bind_eq_bind, Option.bind_some, if_pos hbounds, beq_iff_eq, hlate,
    hseconds, hrange, if_true]

end RemoteSearch.Calendar
