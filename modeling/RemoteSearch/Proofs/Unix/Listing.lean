import RemoteSearch.Proofs.Calendar.Layout
import RemoteSearch.Unix.Listing

/-!
# Listed entries and their records

The line by which a long listing shows an entry, in each style of dates, and the record that is
read back from it.

* `Entry` is what such a line tells, `Entry.Lists` relates it to its lines: columns may be any
  number of blanks apart, and the path at the end may hold anything.
* `Written.read_columns`: the columns of a date are read as the instant that was written.
* `Spaced.nextWord`: each reader of a column takes just its own.
-/

namespace RemoteSearch.Unix

open Text Calendar

variable {w text : List Char} {ws more : List (List Char)}

/-! ## Dates -/

/-- A date as one of the styles writes it. -/
inductive Written where
  | abbreviated (d : Day)
  | fullIso (d : Day) (t : Clock) (nanos : Fin 1000000000) (z : Offset)
  | seconds (d : Day) (t : Clock)

namespace Written

/-- The style of a written date. -/
def style : Written → DateStyle
  | abbreviated _ => .abbreviated
  | fullIso .. => .fullIso
  | seconds .. => .seconds

/-- The instant in universal time. Only the full style writes an offset from it. -/
def instant : Written → Instant
  | abbreviated d => ⟨86400 * d.date.dayNumber, 0⟩
  | fullIso d t nanos z =>
    ⟨86400 * d.date.dayNumber + t.seconds - z.ahead, nanos + t.lateNanos⟩
  | seconds d t => ⟨86400 * d.date.dayNumber + t.seconds, t.lateNanos⟩

/-- The columns of the date. -/
def columns (filled : Bool) : Written → List (List Char)
  | abbreviated d =>
    [monthTitle d.date.month, dayText filled d.date.day, padded 4 d.date.year.toNat]
  | fullIso d t nanos z =>
    [padded 4 d.date.year.toNat ++ '-' :: (padded 2 d.date.month ++ '-' :: padded 2 d.date.day),
      t.text ++ '.' :: padded 9 nanos, z.text]
  | seconds d t =>
    [monthTitle d.date.month, dayText filled d.date.day, t.text, padded 4 d.date.year.toNat]

theorem readNotes_fullIso (d : Day) (t : Clock) (nanos : Fin 1000000000) (z : Offset)
    (filled : Bool) :
    readNotes DateStyle.fullIsoLayout {} (DateStyle.spaced ((fullIso d t nanos z).columns filled)) =
      some (notesOf d t nanos z.ahead) := by
  have hnanos : IsNumeral 9 nanos (padded 9 nanos) := isNumeral_padded 9 _ (by decide) (by omega)
  have hlength : (padded 9 nanos.val).length = 9 := length_padded (by decide) (by omega)
  have hdash : ∀ l, NoDigit ('-' :: l) := fun l => noDigit_cons (by decide)
  have hblank : ∀ l, NoDigit (' ' :: l) := fun l => noDigit_cons (by decide)
  have hpoint : ∀ l, NoDigit ('.' :: l) := fun l => noDigit_cons (by decide)
  have htext : DateStyle.spaced ((fullIso d t nanos z).columns filled) =
      padded 4 d.date.year.toNat ++ '-' :: (padded 2 d.date.month ++ '-' ::
        (padded 2 d.date.day ++ ' ' :: (t.text ++ '.' :: (padded 9 nanos ++ ' ' ::
          (z.text ++ []))))) := by
    simp [DateStyle.spaced, columns, joinWith]
  rw [htext, DateStyle.fullIsoLayout, readNotes_cons (take_year d.isNumeral_year (hdash _)),
    readNotes_cons (take_sign '-'), readNotes_cons (take_month d.isNumeral_month (hdash _)),
    readNotes_cons (take_sign '-'), readNotes_cons (take_day d.isNumeral_day (hblank _)),
    readNotes_cons (take_blank (t.trimStart_append _)), readNotes_clock t (hpoint _),
    readNotes_cons (take_fraction hnanos hlength (hblank _)),
    readNotes_cons (take_blank (z.trimStart_append _)), readNotes_cons (take_zone z), d.toNat_year]
  rfl

theorem readNotes_seconds (d : Day) (t : Clock) (filled : Bool) :
    readNotes DateStyle.secondsLayout {} (DateStyle.spaced ((seconds d t).columns filled)) =
      some (notesOf d t 0 0) := by
  have hyear := d.isNumeral_year
  have hblank : ∀ l, NoDigit (' ' :: l) := fun l => noDigit_cons (by decide)
  have htext : DateStyle.spaced ((seconds d t).columns filled) =
      monthTitle d.date.month ++ ' ' :: (dayText filled d.date.day ++ ' ' ::
        (t.text ++ ' ' :: (padded 4 d.date.year.toNat ++ []))) := by
    simp [DateStyle.spaced, columns, joinWith]
  rw [htext, DateStyle.secondsLayout, readNotes_monthDay d.month_mem d.day_lt filled (hblank _),
    readNotes_cons (take_blank (t.trimStart_append _)), readNotes_clock t (hblank _),
    readNotes_cons (take_blank (hyear.trimStart_append _)),
    readNotes_cons (take_year hyear noDigit_nil), d.toNat_year]
  rfl

theorem readNotes_abbreviated (d : Day) (filled : Bool) :
    readNotes DateStyle.dayLayout {} (DateStyle.spaced ((abbreviated d).columns filled)) =
      some d.toNotes := by
  have hyear := d.isNumeral_year
  have hblank : ∀ l, NoDigit (' ' :: l) := fun l => noDigit_cons (by decide)
  have htext : DateStyle.spaced ((abbreviated d).columns filled) =
      monthTitle d.date.month ++ ' ' :: (dayText filled d.date.day ++ ' ' ::
        (padded 4 d.date.year.toNat ++ [])) := by
    simp [DateStyle.spaced, columns, joinWith]
  rw [htext, DateStyle.dayLayout, readNotes_monthDay d.month_mem d.day_lt filled (hblank _),
    readNotes_cons (take_blank (hyear.trimStart_append _)),
    readNotes_cons (take_year hyear noDigit_nil), d.toNat_year]
  rfl

/-- **A date is read as the instant that was written.** -/
theorem read_columns (x : Written) (filled : Bool) (now : Instant) :
    x.style.read now (x.columns filled) = some x.instant := by
  cases x with
  | fullIso d t nanos z =>
    show readInstant DateStyle.fullIsoLayout _ = _
    rw [readInstant, readNotes_fullIso, Option.bind_some, instant?_notesOf d t nanos z.ahead_mem]
    rfl
  | seconds d t =>
    show readInstant DateStyle.secondsLayout _ = _
    rw [readInstant, readNotes_seconds, Option.bind_some, instant?_notesOf d t 0 (by decide)]
    simp [instant]
  | abbreviated d =>
    have hcolon : (padded 4 d.date.year.toNat).contains ':' = false := by
      rw [List.contains_eq_mem, decide_eq_false_iff_not]
      intro h
      cases d.isNumeral_year.digits ':' h
    simp only [style, columns, DateStyle.read, hcolon, Bool.false_eq_true, if_false]
    have hnotes := readNotes_abbreviated d filled
    rw [columns] at hnotes
    rw [readDate, hnotes, Option.bind_some, d.date?_toNotes]
    rfl

end Written

/-! ## Entries -/

/-- What the place of the size shows, and for links the target, by the kind of the object. -/
inductive Subject where
  | link (target : String) (size : UInt64)
  | device (kind : FileType) (h : kind.isDevice = true) (major minor : UInt32)
  | other (kind : FileType) (h : kind.isDevice = false ∧ kind ≠ .link) (size : UInt64)

namespace Subject

def kind : Subject → FileType
  | link .. => .link
  | device kind .. => kind
  | other kind .. => kind

def size : Subject → Nat
  | link _ size => size.toNat
  -- a listing has no size of a device
  | device .. => 0
  | other _ _ size => size.toNat

def numbers : Subject → Option (Nat × Nat)
  | device _ _ major minor => some (major.toNat, minor.toNat)
  | _ => none

def target : Subject → Option String
  | link target _ => some target
  | _ => none

/-- The columns in the place of the size. -/
def columns : Subject → List (List Char)
  | link _ size => [digitsOf size.toNat]
  | device _ _ major minor => [digitsOf major.toNat ++ [','], digitsOf minor.toNat]
  | other _ _ size => [digitsOf size.toNat]

end Subject

/-- What may stand after the permissions. -/
inductive Marker where
  | none
  | acl
  | attributes
  | context
  deriving DecidableEq

def Marker.chars : Marker → List Char
  | none => []
  | acl => ['+']
  | attributes => ['@']
  | context => ['.']

/-- The phrase between a link and its target. -/
def arrow : List Char := [' ', '-', '>', ' ']

/-- An object as a listing shows it; nine ASCII characters are permissions of nine bytes. -/
structure Entry where
  subject : Subject
  permissions : Permissions
  marker : Marker
  links : UInt64
  uid : UInt32
  gid : UInt32
  date : Written
  path : String
  rooted : path.toList.head? = some '/'
  /-- The arrow after the path of a link is the first one. -/
  arrow_first : subject.kind = .link → IsFirstAfter arrow path.toList

namespace Entry

variable (e : Entry)

/-- The columns between the permissions and the path. -/
def columns (filled : Bool) : List (List Char) :=
  digitsOf e.links.toNat :: digitsOf e.uid.toNat :: digitsOf e.gid.toNat ::
    (e.subject.columns ++ e.date.columns filled)

/-- The path, with an arrow and the target if there is one. -/
def name : List Char :=
  e.path.toList ++ e.subject.target.elim [] fun target => arrow ++ target.toList

/-- The record of the entry. -/
def record : Metadata where
  fileType := e.subject.kind
  path := e.path
  linkTarget := e.subject.target
  canonicalPath := e.subject.target.elim e.path (Path.resolve e.path · '/')
  size := e.subject.size
  created := none
  modified := some e.date.instant
  accessed := none
  unix := some
    { permissions := e.permissions
      uid := some e.uid.toNat
      gid := some e.gid.toNat
      hasAcl := some (e.marker = .acl)
      linkCount := some e.links.toNat
      device := e.subject.numbers }
  extended := if e.marker = .attributes then [("xattr", "true")] else []

end Entry

/-! ## Columns -/

/-- Columns one after another, each with one or more spaces before it. -/
inductive Spaced : List (List Char) → List Char → Prop where
  | nil : Spaced [] []
  | cons (n : Nat) {w text : List Char} {ws : List (List Char)} (h : Spaced ws text) :
      Spaced (w :: ws) (List.replicate (n + 1) ' ' ++ (w ++ text))

/-- The lines that list an entry. -/
def Entry.Lists (e : Entry) (line : String) : Prop :=
  ∃ filled text, Spaced (e.columns filled ++ [e.name]) text ∧
    line.toList = e.subject.kind.toChar :: (e.permissions.text ++ (e.marker.chars ++ text))

/-- A column that is one word. -/
def IsColumn (w : List Char) : Prop := IsSolid w ∧ w ≠ []

instance (w : List Char) : Decidable (IsColumn w) := inferInstanceAs (Decidable (_ ∧ _))

theorem isEmptySpace_spaces (n : Nat) : IsEmptySpace (List.replicate n ' ') := by
  intro c hc
  rw [List.eq_of_mem_replicate hc]
  decide

theorem isColumn_of_isNumeral {width n : Nat} (h : IsNumeral width n w) : IsColumn w :=
  ⟨h.isSolid, h.ne_nil⟩

namespace Spaced

theorem isBreak (h : Spaced ws text) : IsBreak text := by
  cases h with
  | nil => nofun
  | cons n h =>
    intro c hc
    cases hc
    decide

/-- **The first column is the next word.** -/
theorem nextWord (h : Spaced (w :: ws) text) (hw : IsColumn w) :
    ∃ rest, Text.nextWord text = some (w, rest) ∧ Spaced ws rest := by
  cases h with
  | cons n h => exact ⟨_, nextWord_append (isEmptySpace_spaces _) hw.1 hw.2 h.isBreak, h⟩

theorem wordOrEmpty (h : Spaced (w :: ws) text) (hw : IsColumn w) :
    ∃ rest, Unix.wordOrEmpty text = (w, rest) ∧ Spaced ws rest := by
  obtain ⟨rest, he, hs⟩ := h.nextWord hw
  exact ⟨rest, by rw [Unix.wordOrEmpty, he]; rfl, hs⟩

theorem takeWords (h : Spaced (ws ++ more) text) (hw : ∀ w ∈ ws, IsColumn w) :
    ∃ rest, Unix.takeWords ws.length text = some (ws, rest) ∧ Spaced more rest := by
  induction ws generalizing text with
  | nil => exact ⟨text, rfl, h⟩
  | cons w ws ih =>
    obtain ⟨hw, hws⟩ := List.forall_mem_cons.mp hw
    obtain ⟨rest, hnext, hs⟩ := Spaced.nextWord h hw
    obtain ⟨rest', htake, hs'⟩ := ih hs hws
    refine ⟨rest', ?_, hs'⟩
    simp [Unix.takeWords, hnext, htake]

/-- What is left before the last column is its spaces. -/
theorem trimStart_last {c : Char} (h : Spaced [c :: w] text) (hc : isBlank c = false) :
    trimStart text = c :: w := by
  cases h with
  | cons n h =>
    cases h
    rw [trimStart_blanks (isEmptySpace_spaces _), List.append_nil, trimStart_cons hc]

/-- The marker is taken off, and nothing if there is none. -/
theorem takeMark (h : Spaced (w :: ws) text) (m : Marker) :
    Unix.takeMark (m.chars ++ text) = some (⟨m = .acl, m = .attributes⟩, text) := by
  -- without a marker it is the first space that is looked at, and stays
  cases h with
  | cons n h => cases m <;> rfl

end Spaced

/-! ## Lines -/

theorem isColumn_digitsOf (n : Nat) : IsColumn (digitsOf n) :=
  ⟨isSolid_digitsOf n, Nat.toDigits_ne_nil⟩

theorem isColumn_monthTitle {m : Nat} (hm : 1 ≤ m ∧ m ≤ 12) : IsColumn (monthTitle m) := by
  obtain ⟨hlength, hsolid, -⟩ := monthTitle_spec m hm
  refine ⟨hsolid, fun h => ?_⟩
  rw [h] at hlength
  cases hlength

namespace Written

theorem length_columns (x : Written) (filled : Bool) :
    (x.columns filled).length = x.style.columns := by
  cases x <;> rfl

/-- No column of a date has a blank in it, so each is a word. -/
theorem isColumn_columns (x : Written) (filled : Bool) : ∀ w ∈ x.columns filled, IsColumn w := by
  have hmonth : ∀ d : Day, IsColumn (monthTitle d.date.month) :=
    fun d => isColumn_monthTitle d.month_mem
  have hclock : ∀ t : Clock, IsColumn t.text := fun t => ⟨t.isSolid_text, t.text_ne_nil⟩
  cases x with
  | abbreviated d =>
    have hday := isColumn_of_isNumeral (d.isNumeral_dayText filled)
    simpa [columns] using ⟨hmonth d, hday, isColumn_of_isNumeral d.isNumeral_year⟩
  | fullIso d t nanos z =>
    have hnanos := isNumeral_padded 9 nanos (by decide) (by omega)
    have hdate : IsColumn (padded 4 d.date.year.toNat ++
        '-' :: (padded 2 d.date.month ++ '-' :: padded 2 d.date.day)) :=
      ⟨List.forall_mem_append.mpr ⟨d.isNumeral_year.isSolid, List.forall_mem_cons.mpr ⟨by decide,
        List.forall_mem_append.mpr ⟨d.isNumeral_month.isSolid,
          List.forall_mem_cons.mpr ⟨by decide, d.isNumeral_day.isSolid⟩⟩⟩⟩, by simp⟩
    have htime : IsColumn (t.text ++ '.' :: padded 9 nanos) :=
      ⟨List.forall_mem_append.mpr ⟨t.isSolid_text,
        List.forall_mem_cons.mpr ⟨by decide, hnanos.isSolid⟩⟩, by simp⟩
    have hzone : IsColumn z.text := ⟨z.isSolid_text, z.text_ne_nil⟩
    simpa [columns] using ⟨hdate, htime, hzone⟩
  | seconds d t =>
    have hday := isColumn_of_isNumeral (d.isNumeral_dayText filled)
    simpa [columns] using ⟨hmonth d, hday, hclock t, isColumn_of_isNumeral d.isNumeral_year⟩

end Written

/-- The numbers of a device are taken as they were written. -/
theorem takeDevice_of_spaced {major minor : UInt32}
    (h : Spaced ((digitsOf major.toNat ++ [',']) :: digitsOf minor.toNat :: ws) text) :
    ∃ rest, takeDevice text = some (some (major.toNat, minor.toNat), rest) ∧ Spaced ws rest := by
  have hcomma : ',' ∉ digitsOf major.toNat := by
    intro hm
    cases isDigit_of_mem_digitsOf hm
  have hword : IsColumn (digitsOf major.toNat ++ [',']) := by
    refine ⟨?_, by simp⟩
    intro c hc
    rcases List.mem_append.mp hc with hc | hc
    · exact isSolid_digitsOf _ c hc
    · rw [List.mem_singleton.mp hc]
      decide
  -- the comma ends the first word, so the other number is the next one
  obtain ⟨rest₁, h₁, hs₁⟩ := h.nextWord hword
  obtain ⟨rest₂, h₂, hs₂⟩ := hs₁.wordOrEmpty (isColumn_digitsOf _)
  have hpair : pairOf (digitsOf major.toNat) (digitsOf minor.toNat) =
      some (major.toNat, minor.toNat) := by
    simp [pairOf, readNat_digitsOf major.toNat_lt_size, readNat_digitsOf minor.toNat_lt_size]
  refine ⟨rest₂, ?_, hs₂⟩
  simp [takeDevice, h₁, cutAt_singleton hcomma, h₂, hpair]

theorem takeSize_of_spaced {size : UInt64} (h : Spaced (digitsOf size.toNat :: ws) text) :
    ∃ rest, takeSize text = some (size.toNat, rest) ∧ Spaced ws rest := by
  obtain ⟨rest, hnext, hs⟩ := h.nextWord (isColumn_digitsOf _)
  exact ⟨rest, by simp [takeSize, hnext, readNat_digitsOf size.toNat_lt_size], hs⟩

/-- What stands in the place of the size is taken as it was written. -/
theorem place_of_spaced {x : Subject} (h : Spaced (x.columns ++ ws) text) :
    ∃ rest, Spaced ws rest ∧
      ((x.kind.isDevice = true ∧ takeDevice text = some (x.numbers, rest) ∧ x.size = 0) ∨
        (x.kind.isDevice = false ∧ takeSize text = some (x.size, rest) ∧ x.numbers = none)) := by
  cases x with
  | link target size =>
    obtain ⟨rest, htake, hs⟩ := takeSize_of_spaced h
    exact ⟨rest, hs, Or.inr ⟨rfl, htake, rfl⟩⟩
  | device kind hk major minor =>
    obtain ⟨rest, htake, hs⟩ := takeDevice_of_spaced h
    exact ⟨rest, hs, Or.inl ⟨hk, htake, rfl⟩⟩
  | other kind hk size =>
    obtain ⟨rest, htake, hs⟩ := takeSize_of_spaced h
    exact ⟨rest, hs, Or.inr ⟨hk.1, htake, rfl⟩⟩

/-- The path and the target are read as they were written, whatever blanks they hold. -/
theorem nameParts_name (e : Entry) (line : List Char) :
    nameParts e.subject.kind line e.name = .ok (e.path.toList, e.subject.target) := by
  obtain ⟨subject, permissions, marker, links, uid, gid, date, path, rooted, first⟩ := e
  cases subject with
  | link target size =>
    have hcut : cutAt [' ', '-', '>', ' '] (path.toList ++ (arrow ++ target.toList)) =
        some (path.toList, target.toList) := cutAt_append (first rfl) _
    simp only [nameParts, Entry.name, Subject.kind, Subject.target, Option.elim_some, if_true, hcut]
    simp [orMalformed, bind, Except.bind]
  | device kind h major minor =>
    have hk : kind ≠ .link := by
      rintro rfl
      cases h
    simp [nameParts, Entry.name, Subject.kind, Subject.target, hk]
  | other kind h size => simp [nameParts, Entry.name, Subject.kind, Subject.target, h.2]

theorem make?_entry (e : Entry) :
    Metadata.make? e.subject.kind e.path e.subject.target '/' =
      .ok
        { fileType := e.subject.kind
          path := e.path
          linkTarget := e.subject.target
          canonicalPath := e.subject.target.elim e.path (Path.resolve e.path · '/') } := by
  cases e.subject with
  | link target size => rfl
  | device kind h major minor => cases kind <;> first | rfl | cases h
  | other kind h size => cases kind <;> first | rfl | exact absurd rfl h.2

theorem Entry.exists_name (e : Entry) : ∃ rest, e.name = '/' :: rest := by
  obtain ⟨rest, h⟩ := List.head?_eq_some_iff.mp e.rooted
  exact ⟨_, by rw [Entry.name, h, List.cons_append]⟩

/-- The date is taken as it was written, and what is left is the name. -/
theorem end_of_spaced {e : Entry} {filled : Bool}
    (h : Spaced (e.date.columns filled ++ [e.name]) text) :
    ∃ rest, takeWords e.date.style.columns text = some (e.date.columns filled, rest) ∧
      trimStart rest = e.name := by
  obtain ⟨rest, htake, hs⟩ := h.takeWords (e.date.isColumn_columns filled)
  rw [e.date.length_columns] at htake
  refine ⟨rest, htake, ?_⟩
  obtain ⟨tail, hname⟩ := e.exists_name
  rw [hname] at hs ⊢
  exact hs.trimStart_last (by decide)

/-- What is cleaned off a line stands behind every character that is not cleaned off. -/
theorem chomp_append_cons {c : Char} (front rest : List Char) (hc : c ≠ '\n' ∧ c ≠ '\r') :
    chomp (front ++ c :: rest) = front ++ c :: chomp rest :=
  dropEndWhile_append_cons (by simp [hc])

/-- A line that ends in neither of the characters is left as it is. -/
theorem chomp_of_getLast? {line : List Char} (h : ∀ c ∈ line.getLast?, c ≠ '\n' ∧ c ≠ '\r') :
    chomp line = line := by
  rcases List.eq_nil_or_concat line with rfl | ⟨front, c, rfl⟩
  · rfl
  · rw [List.concat_eq_append] at h ⊢
    obtain ⟨hfeed, hreturn⟩ := h c (by simp)
    exact dropEndWhile_append_singleton (by simp [hfeed, hreturn]) front

/--
**A listed entry is read back.** Whatever the style of its date, the spaces between its columns and
the blanks in its path, an entry is read from each of its lines as it was written. The line must not
end in a line feed or carriage return of its own.
-/
theorem listed_entry_reads_back {e : Entry} {line : String} (h : e.Lists line)
    (hend : ∀ c ∈ line.toList.getLast?, c ≠ '\n' ∧ c ≠ '\r') (now : Instant) :
    readLine e.date.style now line = .ok e.record := by
  obtain ⟨filled, text, hs, hline⟩ := h
  have hkind : line.toList.head?.bind FileType.ofChar? = some e.subject.kind := by
    rw [hline]
    exact FileType.ofChar?_toChar _
  have hperm : Utf8.splitAtByte 9 line.toList.tail =
      some (e.permissions.text, e.marker.chars ++ text) := by
    rw [hline, List.tail_cons, ← e.permissions.size_eq]
    exact Utf8.splitAtByte_append _ _
  have hpermissions : Permissions.ofText? e.permissions.text = some e.permissions :=
    dif_pos e.permissions.size_eq
  -- every reader takes its columns, and leaves the rest as spaced as before
  rw [Entry.columns, List.cons_append, List.cons_append, List.cons_append, List.append_assoc] at hs
  have hmark := hs.takeMark e.marker
  obtain ⟨rest₁, h₁, hs₁⟩ := hs.wordOrEmpty (isColumn_digitsOf _)
  obtain ⟨rest₂, h₂, hs₂⟩ := hs₁.wordOrEmpty (isColumn_digitsOf _)
  obtain ⟨rest₃, h₃, hs₃⟩ := hs₂.wordOrEmpty (isColumn_digitsOf _)
  obtain ⟨rest₄, hs₄, hplace⟩ := place_of_spaced hs₃
  obtain ⟨rest₅, h₅, htrim⟩ := end_of_spaced hs₄
  have hnonempty : e.name.isEmpty = false := by
    obtain ⟨tail, hname⟩ := e.exists_name
    rw [hname]
    rfl
  have hdate := e.date.read_columns filled now
  have hids : readNat UInt32.size (digitsOf e.uid.toNat) = some e.uid.toNat ∧
      readNat UInt32.size (digitsOf e.gid.toNat) = some e.gid.toNat ∧
      readNat UInt64.size (digitsOf e.links.toNat) = some e.links.toNat :=
    ⟨readNat_digitsOf e.uid.toNat_lt_size, readNat_digitsOf e.gid.toNat_lt_size,
      readNat_digitsOf e.links.toNat_lt_size⟩
  have hmake := make?_entry e
  rw [readLine, chomp_of_getLast? hend]
  rcases hplace with ⟨hdevice, h₄, hsize⟩ | ⟨hdevice, h₄, hnumbers⟩
  · simp [readClean, hkind, hperm, hpermissions, hmark, h₁, h₂, h₃, h₄, h₅, orMalformed, bind,
      Except.bind, pure, Except.pure, hdevice, htrim, hnonempty, nameParts_name, hdate, hids, hmake,
      Entry.record, hsize]
  · simp [readClean, hkind, hperm, hpermissions, hmark, h₁, h₂, h₃, h₄, h₅, orMalformed, bind,
      Except.bind, pure, Except.pure, hdevice, htrim, hnonempty, nameParts_name, hdate, hids, hmake,
      Entry.record, hnumbers]

/-- A link with blanks at the ends of its path and its target, in another zone on a leap day. -/
theorem link_with_blanks_reads_back :
    ∃ e : Entry,
      let line := "lrwxr-xr-x@ 1  501 20 11 2024-02-29 23:30:05.000000007 -0730 /a b  -> c "
      e.Lists line ∧ readLine .fullIso ⟨0, 0⟩ line = .ok e.record ∧
        e.record.path = "/a b " ∧ e.record.linkTarget = some "c " ∧
        e.record.modified = some ⟨1709276405, 7⟩ := by
  let e : Entry :=
    { subject := .link "c " 11
      permissions := ⟨"rwxr-xr-x".toList, by decide +kernel⟩
      marker := .attributes
      links := 1
      uid := 501
      gid := 20
      date := .fullIso ⟨⟨2024, 2, 29⟩, by decide, by decide, by decide⟩ ⟨23, 30, 5⟩ 7 ⟨true, 7, 30⟩
      path := "/a b "
      rooted := by decide +kernel
      arrow_first := fun _ => by decide +kernel }
  have hlists :
      e.Lists "lrwxr-xr-x@ 1  501 20 11 2024-02-29 23:30:05.000000007 -0730 /a b  -> c " :=
    ⟨false, _, .cons 0 (.cons 1 (.cons 0 (.cons 0 (.cons 0 (.cons 0 (.cons 0 (.cons 0 .nil))))))),
      by decide +kernel⟩
  have hend : ∀ c ∈ some ' ', c ≠ '\n' ∧ c ≠ '\r' := by
    rintro c ⟨⟩
    decide
  exact ⟨e, hlists, listed_entry_reads_back hlists hend ⟨0, 0⟩, rfl, rfl, by decide +kernel⟩

end RemoteSearch.Unix
