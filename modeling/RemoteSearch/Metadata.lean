import RemoteSearch.Calendar.Instant
import RemoteSearch.Error
import RemoteSearch.Fields
import RemoteSearch.Path
import RemoteSearch.Permissions

/-!
# Metadata

What is known about one filesystem object. A record is made by `Metadata.make?`, which refuses a
link without a target and a target on anything but a link, and says where a link leads.
-/

namespace RemoteSearch

open Calendar (Instant)

/-- The kind of a filesystem object. -/
inductive FileType where
  | file
  | directory
  | link
  | fifo
  | block
  | char
  | socket
  deriving Repr, DecidableEq, Inhabited

namespace FileType

/-- The character by which a Unix listing shows the kind. -/
def toChar : FileType → Char
  | file => '-'
  | directory => 'd'
  | link => 'l'
  | fifo => 'p'
  | block => 'b'
  | char => 'c'
  | socket => 's'

/-- The kind shown by a character. -/
def ofChar? : Char → Option FileType
  | '-' => some file
  | 'd' => some directory
  | 'l' => some link
  | 'p' => some fifo
  | 'b' => some block
  | 'c' => some char
  | 's' => some socket
  | _ => none

@[simp] theorem ofChar?_toChar (k : FileType) : ofChar? k.toChar = some k := by cases k <;> rfl

/-- Whether objects of this kind are devices. -/
def isDevice : FileType → Bool
  | block | char => true
  | _ => false

end FileType

/-- What only Unix hosts tell about an object; an id that does not fit is unknown. -/
structure UnixAttributes where
  permissions : Permissions
  uid : Option Nat
  gid : Option Nat
  hasAcl : Option Bool
  linkCount : Option Nat
  /-- Major and minor number of a device. -/
  device : Option (Nat × Nat)
  deriving Repr, DecidableEq

/-- A record of one filesystem object. -/
structure Metadata where
  fileType : FileType
  path : String
  linkTarget : Option String
  /-- Where a link leads; the path itself for all else. -/
  canonicalPath : String
  size : Nat := 0
  created : Option Instant := none
  modified : Option Instant := none
  accessed : Option Instant := none
  unix : Option UnixAttributes := none
  extended : Fields := []
  deriving Repr, DecidableEq

namespace Metadata

/-- The record of an object of which no more than kind, path and link target is known. -/
def make? (fileType : FileType) (path : String) (linkTarget : Option String) (delimiter : Char) :
    Except RecordError Metadata :=
  match fileType, linkTarget with
  | .link, none => .error (.malformed path "link without a target")
  | .link, some target =>
    .ok { fileType, path, linkTarget, canonicalPath := Path.resolve path target delimiter }
  | _, some _ => .error (.malformed path "link target on a non-link")
  | _, none => .ok { fileType, path, linkTarget, canonicalPath := path }

/-- Whether the object is a directory. -/
def isDirectory (m : Metadata) : Bool := m.fileType == .directory

/-- Whether the object is a link. -/
def isLink (m : Metadata) : Bool := m.fileType == .link

end Metadata

end RemoteSearch
