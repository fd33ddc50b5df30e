import RemoteSearch.Proofs.Calendar.Civil
import RemoteSearch.Proofs.Unix.Objects

/-!
# Dates without a year

A listing shows month, day and time of day for what has changed in the last half year, and leaves
out the year. It is read as the current one, or as the one before if the date would lie more than a
day ahead then. A date of a year that has not come yet is therefore read a year or more too early;
all others are found (`recent_date_reads_back`).

* `recentColumns` are the columns of such a date.
* `readIn_year` and `add_le_of_readIn_next`: what they are read as in the year they are from, and in
  the year after it.
* `read_recentColumns`: so the current year and the one before are told apart by half a year.
-/

namespace RemoteSearch.Unix

open Text Calendar

variable {notes : Notes} {r : List Char} {y : Int} {m k hour minute : Nat} {t now : Instant}
  {filled : Bool}

/-! ## Years -/

theorem toList_toString_ofNat (n : Nat) : (toString (n : Int)).toList = digitsOf n := by
  show (Nat.repr n).toList = _
  rw [← Nat.toString_eq_repr, Nat.toString_eq_ofList_toDigits, String.toList_ofList, digitsOf]

theorem toList_toString_negSucc (n : Nat) :
    (toString (Int.negSucc n)).toList = '-' :: digitsOf (n + 1) := by
  show ("-" ++ Nat.repr (n + 1)).toList = _
  rw [String.toList_append, ← Nat.toString_eq_repr, Nat.toString_eq_ofList_toDigits]
  exact congrArg ('-' :: ·) String.toList_ofList

/-- A year of at most four digits, or before the first year, is taken as it is put into a date. -/
theorem take_yearText (hy : y ≤ 9999) (hr : NoDigit r) :
    Item.year.take ((toString y).toList ++ r) notes = some ({ notes with year := some y }, r) := by
  cases y with
  | ofNat n =>
    have hnumeral : IsNumeral 4 n (digitsOf n) := by
      refine isNumeral_digitsOf 4 n (by decide) ?_
      have hle : (n : Int) ≤ 9999 := hy
      omega
    rw [Int.ofNat_eq_natCast, toList_toString_ofNat, take_year hnumeral hr]
  | negSucc n =>
    -- with a sign any number of digits will do
    have hnumeral := isNumeral_own (n + 1)
    have hyear : takeYear ('-' :: (digitsOf (n + 1) ++ r)) = some (Int.negSucc n, r) := by
      have htrim : trimStart ('-' :: (digitsOf (n + 1) ++ r)) = '-' :: (digitsOf (n + 1) ++ r) :=
        trimStart_cons (by decide)
      simp only [takeYear, htrim, hnumeral.takeWhile_append hr, hnumeral.dropWhile_append hr,
        hnumeral.value]
      rfl
    rw [toList_toString_negSucc, List.cons_append, Item.take, hyear]
    rfl

theorem trimStart_yearText (y : Int) (r : List Char) :
    trimStart ((toString y).toList ++ r) = (toString y).toList ++ r := by
  cases y with
  | ofNat n =>
    rw [Int.ofNat_eq_natCast, toList_toString_ofNat, (isNumeral_own n).trimStart_append]
  | negSucc n =>
    rw [toList_toString_negSucc]
    exact trimStart_cons (by decide)

/-- The notes of a date with a time to the minute. -/
def minuteNotes (y : Int) (m k hour minute : Nat) : Notes where
  year := some y
  month := some m
  day := some k
  hour := some hour
  minute := some minute

/-- Hours and minutes with a colon between them. -/
def minuteText (hour minute : Nat) : List Char := padded 2 hour ++ ':' :: padded 2 minute

theorem atYear_eq (hy : y ≤ 9999) (hm : 1 ≤ m ∧ m ≤ 12) (hk : k < 100) (hhour : hour < 100)
    (hminute : minute < 100) :
    DateStyle.atYear (monthTitle m) (dayText filled k) (minuteText hour minute) y =
      (minuteNotes y m k hour minute).instant? := by
  have hhours := isNumeral_padded 2 hour (by decide) (by omega)
  have hminutes := isNumeral_padded 2 minute (by decide) (by omega)
  have hblank : ∀ l, NoDigit (' ' :: l) := fun l => noDigit_cons (by decide)
  have hcolon : ∀ l, NoDigit (':' :: l) := fun l => noDigit_cons (by decide)
  have htext : DateStyle.spaced
      [monthTitle m, dayText filled k, (toString y).toList, minuteText hour minute] =
        monthTitle m ++ ' ' :: (dayText filled k ++ ' ' :: ((toString y).toList ++
          ' ' :: (padded 2 hour ++ ':' :: (padded 2 minute ++ [])))) := by
    simp [DateStyle.spaced, joinWith, minuteText]
  rw [DateStyle.atYear, readInstant, htext, DateStyle.minuteLayout, DateStyle.dayLayout]
  simp only [List.cons_append, List.nil_append]
  rw [readNotes_monthDay hm hk filled (hblank _),
    readNotes_cons (take_blank (trimStart_yearText y _)),
    readNotes_cons (take_yearText hy (hblank _)),
    readNotes_cons (take_blank (hhours.trimStart_append _)),
    readNotes_cons (take_hour hhours (hcolon _)), readNotes_cons (take_sign ':'),
    readNotes_cons (take_minute hminutes noDigit_nil)]
  rfl

/-- The first year of five digits is not read. -/
theorem atYear_tenThousand (hm : 1 ≤ m ∧ m ≤ 12) (hk : k < 100) (time : List Char) :
    DateStyle.atYear (monthTitle m) (dayText filled k) time 10000 = none := by
  have hblank : ∀ l, NoDigit (' ' :: l) := fun l => noDigit_cons (by decide)
  have htext : DateStyle.spaced
      [monthTitle m, dayText filled k, (toString (10000 : Int)).toList, time] =
        monthTitle m ++ ' ' :: (dayText filled k ++ ' ' :: ('1' :: '0' :: '0' :: '0' :: '0' ::
          ' ' :: time)) := by
    have hdigits : (toString (10000 : Int)).toList = ['1', '0', '0', '0', '0'] := by decide
    rw [hdigits]
    simp [DateStyle.spaced, joinWith]
  have hyear : ∀ notes, Item.year.take ('1' :: '0' :: '0' :: '0' :: '0' :: ' ' :: time) notes =
      some ({ notes with year := some 1000 }, '0' :: ' ' :: time) := fun _ => rfl
  -- the fifth digit is taken for the hour, which no colon follows
  have hhour : ∀ notes, Item.hour.take ('0' :: ' ' :: time) notes =
      some ({ notes with hour := some 0 }, ' ' :: time) := fun _ => rfl
  have hsign : ∀ is notes, readNotes (.sign ':' :: is) notes (' ' :: time) = none :=
    fun _ _ => rfl
  rw [DateStyle.atYear, readInstant, htext, DateStyle.minuteLayout, DateStyle.dayLayout]
  simp only [List.cons_append, List.nil_append]
  rw [readNotes_monthDay hm hk filled (hblank _),
    readNotes_cons (take_blank (trimStart_cons (by decide))), readNotes_cons (hyear _)]
  have hskip : ∀ notes, Item.blanks.take ('0' :: ' ' :: time) notes =
      some (notes, '0' :: ' ' :: time) := fun _ => rfl
  rw [readNotes_cons (hskip _), readNotes_cons (hhour _), hsign]
  rfl

/-! ## Instants -/

/-- The instant at an hour and a minute of a day. -/
def minuteInstant (d : Date) (hour minute : Nat) : Instant :=
  ⟨86400 * d.dayNumber + (3600 * hour + 60 * minute : Nat), 0⟩

/-- Notes with a time to the minute name an instant if it can be reached. -/
theorem instant?_minuteNotes (hhour : hour < 24) (hminute : minute < 60) :
    (minuteNotes y m k hour minute).instant? =
      (Date.make? y m k).bind fun d =>
        if (minuteInstant d hour minute).inRange then some (minuteInstant d hour minute)
        else none := by
  have hdate : (minuteNotes y m k hour minute).date? = Date.make? y m k := rfl
  have htime : (hour : Int) * 3600 + minute * 60 = 3600 * hour + 60 * minute := by omega
  simp only [Notes.instant?, hdate]
  simp [minuteNotes, minuteInstant, hhour, hminute, htime]

/-- The hour of an instant. -/
def hourOf (t : Instant) : Nat := (t.secs % 86400 / 3600).toNat

/-- The minute of an instant. -/
def minuteOf (t : Instant) : Nat := (t.secs % 3600 / 60).toNat

/-- The date of an instant as a listing shows it within half a year. -/
def recentColumns (filled : Bool) (t : Instant) : List (List Char) :=
  let d := Date.ofDayNumber t.dayNumber
  [monthTitle d.month, dayText filled d.day, minuteText (hourOf t) (minuteOf t)]

/-- Whether an instant lies on a whole minute. -/
def IsWholeMinute (t : Instant) : Prop := t.nanos = 0 ∧ t.secs % 60 = 0

instance (t : Instant) : Decidable (IsWholeMinute t) := inferInstanceAs (Decidable (_ ∧ _))

/-- Such an instant is made up of its day, its hour and its minute. -/
theorem minuteInstant_of_isWholeMinute (h : IsWholeMinute t) :
    minuteInstant (Date.ofDayNumber t.dayNumber) (hourOf t) (minuteOf t) = t := by
  obtain ⟨secs, nanos⟩ := t
  obtain ⟨rfl, hsecs⟩ := h
  rw [minuteInstant, Date.dayNumber_ofDayNumber]
  simp only [Instant.dayNumber, hourOf, minuteOf, Instant.mk.injEq, and_true] at hsecs ⊢
  omega

theorem hourOf_lt (t : Instant) : hourOf t < 24 := by
  unfold hourOf
  omega

theorem minuteOf_lt (t : Instant) : minuteOf t < 60 := by
  unfold minuteOf
  omega

/-- What the date of an instant is read as in a year. -/
def readIn (filled : Bool) (t : Instant) (y : Int) : Option Instant :=
  let d := Date.ofDayNumber t.dayNumber
  DateStyle.atYear (monthTitle d.month) (dayText filled d.day)
    (minuteText (hourOf t) (minuteOf t)) y

theorem readIn_eq (hy : y ≤ 9999) :
    readIn filled t y =
      (Date.make? y (Date.ofDayNumber t.dayNumber).month (Date.ofDayNumber t.dayNumber).day).bind
        fun d =>
          if (minuteInstant d (hourOf t) (minuteOf t)).inRange then
            some (minuteInstant d (hourOf t) (minuteOf t))
          else none := by
  obtain ⟨-, -, hmonth, -⟩ := Date.exists_ofDayNumber t.dayNumber
  have hhour := hourOf_lt t
  have hminute := minuteOf_lt t
  rw [readIn, atYear_eq hy hmonth (Date.day_ofDayNumber_lt _) (by omega) (by omega),
    instant?_minuteNotes hhour hminute]

/-- **In the year it is from, the date of an instant is read as the instant.** -/
theorem readIn_year (hy : t.year ≤ 9999) (hrange : t.inRange = true) (h : IsWholeMinute t) :
    readIn filled t t.year = some t := by
  have hdate : Date.make? t.year (Date.ofDayNumber t.dayNumber).month
      (Date.ofDayNumber t.dayNumber).day = some (Date.ofDayNumber t.dayNumber) :=
    Date.make?_ofDayNumber hrange
  rw [readIn_eq hy, hdate, Option.bind_some, minuteInstant_of_isWholeMinute h, if_pos hrange]

/-- **In the year after that, it is read as an instant at least 365 days later**, if at all. -/
theorem add_le_of_readIn_next {t' : Instant} (hy : t.year ≤ 9999) (h : IsWholeMinute t)
    (hread : readIn filled t (t.year + 1) = some t') : t.secs + 86400 * 365 ≤ t'.secs := by
  obtain ⟨-, -, hmonth, -⟩ := Date.exists_ofDayNumber t.dayNumber
  by_cases hnext : t.year + 1 ≤ 9999
  · rw [readIn_eq hnext] at hread
    obtain ⟨d, hd, hread⟩ := Option.bind_eq_some_iff.mp hread
    have hmk : d = ⟨t.year + 1, (Date.ofDayNumber t.dayNumber).month,
        (Date.ofDayNumber t.dayNumber).day⟩ := by
      unfold Date.make? at hd
      split at hd
      · exact (Option.some.inj hd).symm
      · cases hd
    have hlater : minuteInstant d (hourOf t) (minuteOf t) = t' := by
      split at hread
      · exact Option.some.inj hread
      · cases hread
    have hdays : (Date.ofDayNumber t.dayNumber).dayNumber + 365 ≤ d.dayNumber := by
      rw [hmk]
      exact dayNumber_add_le hmonth.2
    have hsecs := congrArg Instant.secs (minuteInstant_of_isWholeMinute h)
    rw [← hlater]
    simp only [minuteInstant] at hsecs ⊢
    omega
  · -- the year after 9999 is not read at all
    have hten : t.year + 1 = 10000 := by omega
    rw [hten, readIn, atYear_tenThousand hmonth (Date.day_ofDayNumber_lt _)] at hread
    cases hread

/-! ## The current year and the one before -/

theorem secs_le_of_le {a b : Instant} (h : a.le b = true) : a.secs ≤ b.secs := by
  simp [Instant.le] at h
  omega

/-- An instant of the last half year is from the current year or from the one before. -/
theorem year_eq_or_of_le (hlow : (now.plusDays (-182)).le t = true) (hyear : t.year ≤ now.year) :
    now.year = t.year ∨ now.year = t.year + 1 := by
  obtain ⟨-, hend⟩ := startOfYear_yearOf t.dayNumber
  obtain ⟨hstart, -⟩ := startOfYear_yearOf now.dayNumber
  have hsecs : now.secs + 86400 * -182 ≤ t.secs := secs_le_of_le hlow
  by_contra hfar
  have hmono := startOfYear_mono (y := t.year + 1) (z := now.year) (by omega)
  simp only [Instant.year, Instant.dayNumber] at *
  omega

/-- A date of the current year stands if it is at most a day ahead. -/
theorem recent_of_near {month day time : List Char}
    (h : DateStyle.atYear month day time now.year = some t) (hnear : t.le (now.plusDays 1) = true) :
    DateStyle.recent now month day time = some t := by
  simp only [DateStyle.recent, h, hnear, if_true]

/-- One that is further ahead, or that there is not, gives way to the year before. -/
theorem recent_of_far {month day time : List Char}
    (h : ∀ t, DateStyle.atYear month day time now.year = some t → t.le (now.plusDays 1) = false) :
    DateStyle.recent now month day time = DateStyle.atYear month day time (now.year - 1) := by
  cases hread : DateStyle.atYear month day time now.year with
  | none => simp only [DateStyle.recent, hread]
  | some t => simp only [DateStyle.recent, hread, h t hread, Bool.false_eq_true, if_false]

/-- **A date of the last half year or of the day ahead is read as the instant that it is from.** -/
theorem read_recentColumns (hlow : (now.plusDays (-182)).le t = true)
    (hhigh : t.le (now.plusDays 1) = true) (hyear : t.year ≤ now.year) (hfour : t.year ≤ 9999)
    (hrange : t.inRange = true) (h : IsWholeMinute t) :
    DateStyle.abbreviated.read now (recentColumns filled t) = some t := by
  have hcolon : (minuteText (hourOf t) (minuteOf t)).contains ':' = true := by
    simp [minuteText]
  have hown : readIn filled t t.year = some t := readIn_year hfour hrange h
  rw [recentColumns, DateStyle.read]
  simp only [hcolon, if_true]
  rcases year_eq_or_of_le hlow hyear with hsame | hnext
  · refine recent_of_near ?_ hhigh
    rw [hsame]
    exact hown
  · rw [recent_of_far, hnext, Int.add_sub_cancel]
    · exact hown
    · intro t' hread
      rw [hnext] at hread
      -- a year later is more than a day ahead, since half a year ago is the earliest
      have hlater := add_le_of_readIn_next hfour h hread
      have hsecs : now.secs + 86400 * -182 ≤ t.secs := secs_le_of_le hlow
      refine Bool.eq_false_iff.mpr fun hle => ?_
      have hsoon : t'.secs ≤ now.secs + 86400 * 1 := secs_le_of_le hle
      omega

/-- A leap day that has not come yet. -/
example : DateStyle.abbreviated.read ⟨1709100000, 0⟩ (recentColumns true ⟨1709186400, 0⟩) =
    some ⟨1709186400, 0⟩ := by decide +kernel

/-! ## Recent dates -/

/-- Each column of a date without a year is a word. -/
theorem isColumn_recentColumns (filled : Bool) (t : Instant) :
    ∀ w ∈ recentColumns filled t, IsColumn w := by
  obtain ⟨-, -, hmonth, -⟩ := Date.exists_ofDayNumber t.dayNumber
  have htitle := isColumn_monthTitle hmonth
  have hday := isColumn_of_isNumeral
    (isNumeral_dayText (Date.day_ofDayNumber_lt t.dayNumber) filled)
  have hhour := hourOf_lt t
  have hminute := minuteOf_lt t
  have hclock : IsColumn (minuteText (hourOf t) (minuteOf t)) :=
    ⟨List.forall_mem_append.mpr ⟨(isNumeral_padded 2 _ (by decide) (by omega)).isSolid,
      List.forall_mem_cons.mpr
        ⟨by decide, (isNumeral_padded 2 _ (by decide) (by omega)).isSolid⟩⟩, by simp [minuteText]⟩
  simpa [recentColumns] using ⟨htitle, hday, hclock⟩

/--
**A date without a year is read as the instant that it is from**, if this lies in no later year than
the current one.
-/
theorem recent_date_reads_back {o : Object} {line : String}
    (hline : o.Lists (recentColumns filled t) line) (hminute : IsWholeMinute t)
    (hrange : t.inRange = true) (hlow : (now.plusDays (-182)).le t = true)
    (hhigh : t.le (now.plusDays 1) = true) (hyear : t.year ≤ now.year) (hfour : t.year ≤ 9999) :
    ∃ r, readLine .abbreviated now line = .ok r ∧ r.modified = some t := by
  have hread : DateStyle.abbreviated.read now (recentColumns filled t) = some t :=
    read_recentColumns hlow hhigh hyear hfour hrange hminute
  rw [← hread]
  exact Object.modified_of_lists hline (isColumn_recentColumns filled t) rfl now

/-- In June, a file of last Christmas Eve. -/
theorem christmas_eve_reads_back :
    let now : Instant := ⟨1717200000, 0⟩
    let t : Instant := ⟨1703404800, 0⟩
    let line := "-rw-r--r-- 1 0 0 1 Dec 24 08:00 /d/f"
    Object.small.Lists (recentColumns true t) line ∧ IsWholeMinute t ∧ t.inRange = true ∧
      (now.plusDays (-182)).le t = true ∧ t.le (now.plusDays 1) = true ∧ t.year < now.year ∧
      t.year ≤ 9999 ∧ ∃ r, readLine .abbreviated now line = .ok r ∧ r.modified = some t := by
  intro now t line
  have hlists : Object.small.Lists (recentColumns true t) line :=
    Object.small_lists (by decide +kernel)
  exact ⟨hlists, by decide, by decide, by decide, by decide, by decide, by decide,
    recent_date_reads_back hlists (by decide) (by decide) (by decide) (by decide) (by decide)
      (by decide)⟩

/--
At noon of the last day of a year, a file of the morning after is read as one that is a year old,
and so is one of the first year that has five digits.
-/
theorem coming_year_is_missed :
    let line := "-rw-r--r-- 1 0 0 1 Jan 01 06:00 /d/f"
    let eve : Instant := ⟨1704024000, 0⟩
    let morning : Instant := ⟨1704088800, 0⟩
    let late : Instant := ⟨253402322400, 0⟩
    Object.small.Lists (recentColumns true morning) line ∧ IsWholeMinute morning ∧
      morning.inRange = true ∧ (eve.plusDays (-182)).le morning = true ∧
      morning.le (eve.plusDays 1) = true ∧
      (∃ r, readLine .abbreviated eve line = .ok r ∧ r.modified = some ⟨1672552800, 0⟩) ∧
    Object.small.Lists (recentColumns true late) line ∧ IsWholeMinute late ∧ late.inRange = true ∧
      ∃ r, readLine .abbreviated late line = .ok r ∧ r.modified = some ⟨253370786400, 0⟩ := by
  intro line eve morning late
  have hread : ∀ {now t : Instant} {x : Option Instant},
      Object.small.Lists (recentColumns true t) line →
      DateStyle.abbreviated.read now (recentColumns true t) = x →
      ∃ r, readLine .abbreviated now line = .ok r ∧ r.modified = x := by
    rintro now t _ hlists rfl
    exact Object.modified_of_lists hlists (isColumn_recentColumns true t) rfl now
  have hmorning : Object.small.Lists (recentColumns true morning) line :=
    Object.small_lists (by decide +kernel)
  have hlate : Object.small.Lists (recentColumns true late) line :=
    Object.small_lists (by decide +kernel)
  exact ⟨hmorning, by decide, by decide, by decide, by decide, hread hmorning (by decide +kernel),
    hlate, by decide, by decide, hread hlate (by decide +kernel)⟩

end RemoteSearch.Unix
