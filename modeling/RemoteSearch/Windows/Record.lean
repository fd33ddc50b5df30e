import RemoteSearch.Metadata
import RemoteSearch.Text.Base64
import RemoteSearch.Text.Blank
import RemoteSearch.Text.Case.Lower
import RemoteSearch.Text.Numeral
import RemoteSearch.Text.Split

/-!
# Records of Windows hosts

A record is a block of lines between braces, each line a key and a value with a colon between them.
Paths are in Base64, times are counts of 100 ns since the start of 1601, and whatever has no place
in a record of its own is kept under its key in lower case.
-/

namespace RemoteSearch.Windows

open Text Calendar

/-- Seconds from the start of 1601 to the start of 1970. -/
def epochOffset : Int := 11644473600

/-- The instant of a tick count; no count and counts below 1 tell nothing. -/
def instantOfTicks (text : String) : Option Instant := do
  let ticks ← int64? (trimmed text)
  if 0 < ticks then some ⟨ticks / 10000000 - epochOffset, (ticks % 10000000).toNat * 100⟩ else none

/-- The text that Base64 stands for. -/
def decodeText (encoded : String) : Option String := do
  let bytes ← Base64.decode (trim encoded.toList)
  (Utf8.decode? bytes).map String.ofList

/-- The kind of a record without a link target. -/
def kindOf? : String → Option FileType
  | "File" => some .file
  | "Directory" => some .directory
  | _ => none

/-- The value of an option, or a complaint about a text. -/
def orMalformed {α : Type} (o : Option α) (text reason : String) : Except RecordError α :=
  match o with
  | some a => .ok a
  | none => .error (.malformed text reason)

/-- The fields that a record has a place of its own for. -/
def knownKeys : List String := ["Path", "LinkTarget", "Type", "Length", "Ctime", "Mtime", "Atime"]

/-- The fields without a place of their own, under their keys in lower case. -/
def extendedOf (fields : Fields) : Fields :=
  .ofList ((fields.filter fun (k, _) => !knownKeys.contains k).map fun (k, v) => (Case.lower k, v))

/-- The link target among the fields, decoded. -/
def targetOf (fields : Fields) : Except RecordError (Option String) :=
  match fields.get? "LinkTarget" with
  | some encoded =>
    (orMalformed (decodeText encoded) encoded "link target is not base64 text").map some
  | none => .ok none

/-- The kind among the fields; a target makes a link of anything. -/
def typeOf (fields : Fields) (target : Option String) : Except RecordError FileType :=
  let kind := (fields.get? "Type").getD ""
  if target.isSome then .ok .link else orMalformed (kindOf? kind) kind "unknown record type"

/-- The length among the fields, 0 if there is none. -/
def lengthOf (fields : Fields) : Except RecordError Nat :=
  match fields.get? "Length" with
  | some text => orMalformed (nat64? text) text "bad length"
  | none => .ok 0

/-- The record made of the fields of a block. -/
def ofFields (fields : Fields) : Except RecordError Metadata := do
  let encoded ← orMalformed (fields.get? "Path") "" "record without a path"
  let path ← orMalformed (decodeText encoded) encoded "path is not base64 text"
  let target ← targetOf fields
  let fileType ← typeOf fields target
  let size ← lengthOf fields
  let record ← Metadata.make? fileType path target '\\'
  .ok { record with
    size
    created := (fields.get? "Ctime").bind instantOfTicks
    modified := (fields.get? "Mtime").bind instantOfTicks
    accessed := (fields.get? "Atime").bind instantOfTicks
    extended := extendedOf fields }

/-- The record of a block whose opening brace has been read, and the lines after it. -/
def readBlock (fields : Fields) : List String → Except RecordError Metadata × List String
  | [] => (.error (.truncated "end of stream inside a record"), [])
  | line :: rest =>
    let line := trimmed line
    if line = "\x7d" then (ofFields fields, rest)
    else if line.isEmpty then readBlock fields rest
    else
      match cut ":" line with
      | some (key, value) => readBlock (fields.put (trimmed key) (trimmed value)) rest
      -- the block is given up here, and what follows is read as if it stood outside
      | none => (.error (.malformed line "expected 'Key: value'"), rest)

/-- A block takes no more than the lines there are. -/
theorem length_readBlock_le (fields : Fields) (l : List String) :
    (readBlock fields l).2.length ≤ l.length := by
  induction l generalizing fields with
  | nil => simp [readBlock]
  | cons line rest ih =>
    simp only [readBlock]
    split
    · simp
    · split
      · have := ih fields
        simp only [List.length_cons]
        omega
      · split
        · rename_i key value _
          have := ih (fields.put (trimmed key) (trimmed value))
          simp only [List.length_cons]
          omega
        · simp

/-- The next record or the reason why it is none, and the lines after it. -/
def readRecord : List String → Option (Except RecordError Metadata × List String)
  | [] => none
  | line :: rest =>
    let line := trimmed line
    if line.isEmpty then readRecord rest
    else if line = "\x7b" then some (readBlock [] rest)
    else some (.error (.malformed line "expected '\x7b'"), rest)

/-- A record takes at least one line. -/
theorem length_lt_of_readRecord {l rest : List String} {r : Except RecordError Metadata}
    (h : readRecord l = some (r, rest)) : rest.length < l.length := by
  induction l with
  | nil => simp [readRecord] at h
  | cons line l ih =>
    simp only [readRecord] at h
    split at h
    · have := ih h
      simp only [List.length_cons]
      omega
    · split at h
      · simp only [Option.some.injEq] at h
        have := length_readBlock_le [] l
        simp only [h] at this
        simp only [List.length_cons]
        omega
      · simp only [Option.some.injEq, Prod.mk.injEq] at h
        simp [h.2]

end RemoteSearch.Windows
