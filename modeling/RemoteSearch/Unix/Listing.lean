import RemoteSearch.Calendar.Layout
import RemoteSearch.Metadata
import RemoteSearch.Text.Split

/-!
# Listings of single objects

The line that a long listing prints for an object: kind and permissions at fixed places, then
columns separated by blanks, then the path as it is. Devices show a pair of numbers in place of
the size, and links show their target after an arrow.

An owner that does not fit is unknown and so is a date that cannot be read. Anything else that is
amiss makes the line malformed.
-/

namespace RemoteSearch.Unix

open Text Calendar

/-- How the listing of a host writes dates. -/
inductive DateStyle where
  /-- Month, day, and the year or the time of day. -/
  | abbreviated
  /-- Date, time with fraction, and offset. -/
  | fullIso
  /-- Month, day, time and year. -/
  | seconds
  deriving Repr, DecidableEq, Inhabited

namespace DateStyle

/-- How many columns a date takes. -/
def columns : DateStyle → Nat
  | abbreviated => 3
  | fullIso => 3
  | seconds => 4

/-- Year, month and day with dashes, a time with fraction, an offset. -/
def fullIsoLayout : List Item :=
  [.year, .sign '-', .month, .sign '-', .day, .blanks, .hour, .sign ':', .minute, .sign ':',
    .second, .fraction, .blanks, .zone]

/-- Month, day, a time to the second, year. -/
def secondsLayout : List Item :=
  [.monthName, .blanks, .day, .blanks, .hour, .sign ':', .minute, .sign ':', .second, .blanks,
    .year]

/-- Month, day, year. -/
def dayLayout : List Item := [.monthName, .blanks, .day, .blanks, .year]

/-- Month, day, year, a time to the minute. -/
def minuteLayout : List Item := dayLayout ++ [.blanks, .hour, .sign ':', .minute]

/-- The columns with one blank between them. -/
def spaced (l : List (List Char)) : List Char := joinWith ' ' l

/-- Month, day and time of day in a given year. -/
def atYear (month day time : List Char) (year : Int) : Option Instant :=
  readInstant minuteLayout (spaced [month, day, (toString year).toList, time])

/--
A date with a time of day and no year: it lies in the current year unless there is no such day or
it would be more than a day ahead, and then in the year before.
-/
def recent (now : Instant) (month day time : List Char) : Option Instant :=
  match atYear month day time now.year with
  | some t => if t.le (now.plusDays 1) then some t else atYear month day time (now.year - 1)
  | none => atYear month day time (now.year - 1)

/-- The instant written in the columns of a date. -/
def read (style : DateStyle) (now : Instant) (tokens : List (List Char)) : Option Instant :=
  match style with
  | fullIso => readInstant fullIsoLayout (spaced tokens)
  | seconds => readInstant secondsLayout (spaced tokens)
  | abbreviated =>
    match tokens with
    | [month, day, last] =>
      if last.contains ':' then recent now month day last
      else readDate dayLayout (spaced [month, day, last])
    | _ => none

end DateStyle

/-! ## The parts of a line -/

/-- A word of a text, empty when there is none, and what comes after it. -/
def wordOrEmpty (l : List Char) : List Char × List Char := (nextWord l).getD ([], [])

/-- The words of a number of columns and what comes after them. -/
def takeWords : Nat → List Char → Option (List (List Char) × List Char)
  | 0, l => some ([], l)
  | n + 1, l => do
    let (w, l) ← nextWord l
    let (ws, l) ← takeWords n l
    some (w :: ws, l)

/-- The mark after the permissions: whether it tells of an access list, and of attributes. -/
structure Mark where
  hasAcl : Bool
  hasAttributes : Bool
  deriving Repr, DecidableEq, Inhabited

/-- Takes the mark off the text; a character that is no mark stays. -/
def takeMark : List Char → Option (Mark × List Char)
  | '+' :: r => some (⟨true, false⟩, r)
  | '@' :: r => some (⟨false, true⟩, r)
  | '.' :: r => some (⟨false, false⟩, r)
  | c :: r => if Utf8.charSize c = 1 then some (⟨false, false⟩, c :: r) else none
  | [] => none

/-- Two numbers below 2³². -/
def pairOf (major minor : List Char) : Option (Nat × Nat) := do
  some (← readNat UInt32.size major, ← readNat UInt32.size minor)

/--
Takes the numbers of a device off the text: two numbers with a comma between them, with or without
blanks after the comma. Only that something stands there is required.
-/
def takeDevice (l : List Char) : Option (Option (Nat × Nat) × List Char) := do
  let (first, l) ← nextWord l
  match cutAt [','] first with
  | some (major, []) =>
    -- the comma ends the word, so the second number is the next one
    let (minor, l) := wordOrEmpty l
    some (pairOf major minor, l)
  | some (major, minor) => some (pairOf major minor, l)
  | none => some (none, l)

/-- Takes a size off the text. -/
def takeSize (l : List Char) : Option (Nat × List Char) := do
  let (word, l) ← nextWord l
  some (← readNat UInt64.size word, l)

/-- The line without line feeds and carriage returns at its end. -/
def chomp (l : List Char) : List Char := dropEndWhile (fun c => c == '\r' || c == '\n') l

/-- The value of an option, or a complaint about the line. -/
def orMalformed {α : Type} (o : Option α) (line : List Char) (reason : String) :
    Except RecordError α :=
  match o with
  | some a => .ok a
  | none => .error (.malformed (String.ofList line) reason)

/-- The path and the link target that the last part of a line names. -/
def nameParts (kind : FileType) (line name : List Char) :
    Except RecordError (List Char × Option String) :=
  if kind = .link then do
    let (path, target) ← orMalformed (cutAt [' ', '-', '>', ' '] name) line "link without a target"
    .ok (path, some (String.ofList target))
  else .ok (name, none)

/-- The record of a line whose end has been cleaned. -/
def readClean (style : DateStyle) (now : Instant) (line : List Char) :
    Except RecordError Metadata := do
  let fileType ← orMalformed (line.head?.bind FileType.ofChar?) line "unknown file type"
  let (text, rest) ←
    orMalformed (Utf8.splitAtByte 9 line.tail) line "bad permission string"
  let permissions ← orMalformed (Permissions.ofText? text) line "bad permission string"
  let (mark, rest) ← orMalformed (takeMark rest) line "record too short"
  let (links, rest) := wordOrEmpty rest
  let (uid, rest) := wordOrEmpty rest
  let (gid, rest) := wordOrEmpty rest
  let (device, size, rest) ←
    if fileType.isDevice then do
      let (device, rest) ← orMalformed (takeDevice rest) line "missing device numbers"
      pure (device, 0, rest)
    else do
      let (size, rest) ← orMalformed (takeSize rest) line "bad size"
      pure (none, size, rest)
  -- a date that makes no sense is left out of the record, one that is not there is an error
  let (date, rest) ← orMalformed (takeWords style.columns rest) line "missing date"
  let name := trimStart rest
  if name.isEmpty then .error (.malformed (String.ofList line) "missing path")
  else do
    let (path, target) ← nameParts fileType line name
    let record ← Metadata.make? fileType (String.ofList path) target '/'
    .ok { record with
      size
      modified := style.read now date
      unix := some
        { permissions
          uid := readNat UInt32.size uid
          gid := readNat UInt32.size gid
          hasAcl := some mark.hasAcl
          linkCount := readNat UInt64.size links
          device }
      extended := if mark.hasAttributes then [("xattr", "true")] else [] }

/-- The record that a line of a listing shows, read at a given time. -/
def readLine (style : DateStyle) (now : Instant) (line : String) : Except RecordError Metadata :=
  readClean style now (chomp line.toList)

end RemoteSearch.Unix
